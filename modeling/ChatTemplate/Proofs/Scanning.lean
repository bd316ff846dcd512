import ChatTemplate.Proofs.Spelling
import ChatTemplate.Proofs.Trimming
import ChatTemplate.Trace

/-! What the scanner does with a branch and with a whole template, in terms of how they are spelled.
A branch has a head, which every text has, and a body; a template is literal text up to its first
block, the block, and the template behind it. -/
namespace ChatTemplate.Scanning
open Spelling Trimming

/-- The keyword and the condition behind an opening bracket, and what follows them. A keyword that
no space ends has no condition. -/
inductive Head : List Char → List Char → List Char → List Char → Prop where
  | bare (keyword : Reads endsKeyword source word rest) (unspaced : rest.head? ≠ some ' ') :
      Head source word [] rest
  | spaced (keyword : Reads endsKeyword source word (' ' :: behind))
      (condition : Reads (· = ']') behind predicate rest) : Head source word predicate rest

theorem takePredicate_bare (unspaced : rest.head? ≠ some ' ') : takePredicate rest = ([], rest) := by
  unfold takePredicate
  split
  · exact absurd rfl unspaced
  · rfl

theorem head_exists (source : List Char) : ∃ word predicate rest, Head source word predicate rest := by
  have keyword := takeEscaped_sound endsKeyword source
  by_cases spaced : (takeEscaped endsKeyword source).2.head? = some ' '
  · obtain ⟨behind, split⟩ := List.head?_eq_some_iff.mp spaced
    rw [split] at keyword
    exact ⟨_, _, _, .spaced keyword (takeEscaped_sound (· = ']') behind)⟩
  · exact ⟨_, _, _, .bare keyword spaced⟩

theorem head_suffix (head : Head source word predicate rest) : rest <:+ source := by
  cases head with
  | bare keyword unspaced => exact reads_suffix keyword
  | spaced keyword condition =>
    exact (reads_suffix condition).trans ((List.suffix_cons _ _).trans (reads_suffix keyword))

theorem takePredicate_head (head : Head source word predicate rest) :
    (takeEscaped endsKeyword source).1 = word ∧
      takePredicate (takeEscaped endsKeyword source).2 = (predicate, rest) := by
  cases head with
  | bare keyword unspaced =>
    rw [takeEscaped_complete keyword]
    exact ⟨rfl, takePredicate_bare unspaced⟩
  | spaced keyword condition =>
    rw [takeEscaped_complete keyword]
    exact ⟨rfl, takeEscaped_complete condition⟩

/-- A branch once its head is known. -/
theorem lexBranch_head (head : Head source word predicate rest) :
    lexBranch source =
      match BranchKind.ofKeyword? (String.ofList word) with
      | none => .error .unknownKeyword
      | some kind => do
        let condition ← checkPredicate kind predicate
        let found ← lexBody rest
        return (.branch kind condition (String.ofList found.1), found.2) := by
  obtain ⟨named, tested⟩ := takePredicate_head head
  simp only [lexBranch, named, tested]
  cases BranchKind.ofKeyword? (String.ofList word) with
  | none => rfl
  | some kind =>
    cases checked : checkPredicate kind predicate with
    | error fault => simp [checked, bind, Except.bind]
    | ok condition =>
      simp only [checked]
      cases lexBody rest <;> rfl

/-- A condition fits where it is not blank, and behind a fallback where it is. -/
theorem checkPredicate_iff : checkPredicate kind predicate = .ok condition ↔
    (kind = .elseBranch ∧ Blank predicate ∧ condition = none) ∨
      (kind ≠ .elseBranch ∧ ¬ Blank predicate ∧ condition = some (String.ofList predicate)) := by
  have whole : predicate.all Text.isBlank = true ↔ Blank predicate := List.all_eq_true
  rw [← whole]
  cases kind <;> cases blank : predicate.all Text.isBlank <;> simp [checkPredicate, blank, eq_comm]

/-- A fault of a condition: it is missing, or it stands behind a fallback. -/
theorem checkPredicate_error_iff : checkPredicate kind predicate = .error fault ↔
    (kind ≠ .elseBranch ∧ Blank predicate ∧ fault = .missingPredicate) ∨
      (kind = .elseBranch ∧ ¬ Blank predicate ∧ fault = .unexpectedPredicate) := by
  have whole : predicate.all Text.isBlank = true ↔ Blank predicate := List.all_eq_true
  rw [← whole]
  cases kind <;> cases blank : predicate.all Text.isBlank <;> simp [checkPredicate, blank, eq_comm]

theorem lexBody_iff : lexBody rest = .ok (body, after) ↔
    rest = ']' :: '(' :: (body ++ ')' :: after) ∧ Closed body := by
  constructor
  · intro ended
    unfold lexBody at ended
    split at ended
    · next behind =>
      split at ended
      · next found taken =>
        cases ended
        obtain ⟨rfl, closed⟩ := takeBody_iff.mp taken
        exact ⟨rfl, closed⟩
      · cases ended
    · cases ended
  · rintro ⟨rfl, closed⟩
    simp only [lexBody, takeBody_iff.mpr ⟨rfl, closed⟩]

/-- Without a bracket and a parenthesis there is no body. -/
theorem lexBody_missing (without : ¬ ∃ behind, rest = ']' :: '(' :: behind) :
    lexBody rest = .error .missingBody := by
  unfold lexBody
  split
  · next behind => exact absurd ⟨behind, rfl⟩ without
  · rfl

/-- A parenthesis without its match leaves the body open. -/
theorem lexBody_unclosed
    (unclosed : ¬ ∃ body after, behind = body ++ ')' :: after ∧ Closed body) :
    lexBody (']' :: '(' :: behind) = .error .unclosedBody := by
  cases taken : takeBody 0 behind with
  | none => simp only [lexBody, taken]
  | some found => exact absurd ⟨found.1, found.2, takeBody_iff.mp taken⟩ unclosed

/-- A branch is read exactly where its keyword is known, its condition fits and its body closes. -/
theorem lexBranch_iff (head : Head source word predicate rest) :
    lexBranch source = .ok (token, after) ↔
      ∃ kind condition body, BranchKind.ofKeyword? (String.ofList word) = some kind ∧
        checkPredicate kind predicate = .ok condition ∧
        rest = ']' :: '(' :: (body ++ ')' :: after) ∧ Closed body ∧
        token = .branch kind condition (String.ofList body) := by
  rw [lexBranch_head head]
  constructor
  · intro ended
    cases known : BranchKind.ofKeyword? (String.ofList word) with
    | none => simp [known] at ended
    | some kind =>
      simp only [known] at ended
      obtain ⟨condition, checked, ended⟩ := ok_of_bind ended
      obtain ⟨found, closes, ended⟩ := ok_of_bind ended
      cases ended
      obtain ⟨split, closed⟩ := lexBody_iff.mp closes
      exact ⟨kind, condition, found.1, rfl, checked, split, closed, rfl⟩
  · rintro ⟨kind, condition, body, known, checked, split, closed, rfl⟩
    simp only [known, checked, lexBody_iff.mpr ⟨split, closed⟩]
    rfl

/-- The body of a branch and what follows the branch are parts of what stands behind its bracket. -/
theorem lexBranch_sublist (found : lexBranch source = .ok (token, after)) :
    ∃ kind condition body, token = .branch kind condition body ∧
      (body.toList ++ after).Sublist source := by
  obtain ⟨word, predicate, rest, head⟩ := head_exists source
  obtain ⟨kind, condition, body, -, -, rfl, -, rfl⟩ := (lexBranch_iff head).mp found
  refine ⟨kind, condition, _, rfl, ?_⟩
  have inside : (body ++ after).Sublist (']' :: '(' :: (body ++ ')' :: after)) :=
    (((List.Sublist.refl after).cons ')').append_left body |>.cons '(').cons ']'
  rw [String.toList_ofList]
  exact inside.trans (head_suffix head).sublist

/-- An exec block ends at its brace, which belongs to it. -/
theorem takeExec_closed (inside : Spells (· = '}') fragment text) (behind : List Char) :
    takeExec (fragment ++ '}' :: behind) = (text, behind) := by
  have taken : takeEscaped (· = '}') (fragment ++ '}' :: behind) =
      (text, '}' :: behind) := takeEscaped_complete (.stopped inside (by decide) (by decide))
  rw [takeExec, taken]
  rfl

theorem takeExec_open (inside : Reads (· = '}') source text []) :
    takeExec source = (text, []) := by
  rw [takeExec, takeEscaped_complete inside]
  rfl

/-- A template without a block. -/
theorem lexChars_literal (taken : takeEscaped opensBlock source = (literal, [])) :
    lexChars source = .ok (rawToken literal) := by
  unfold lexChars
  dsimp only
  split
  · rw [taken]
  · next opened =>
    rw [taken] at opened
    cases opened

theorem lexChars_branch (taken : takeEscaped opensBlock source = (literal, '[' :: rest)) :
    lexChars source = lexBranch rest >>= fun found =>
      (lexChars found.2).map fun tokens => rawToken literal ++ found.1 :: tokens := by
  conv => lhs; unfold lexChars
  dsimp only
  split
  · next opened =>
    rw [taken] at opened
    cases opened
  · next c behind opened =>
    rw [taken] at opened
    cases opened
    rw [if_pos rfl]
    split
    · next fault ended => rw [ended]; rfl
    · next token after ended =>
      rw [ended, taken]
      rfl

theorem lexChars_exec (taken : takeEscaped opensBlock source = (literal, '{' :: rest)) :
    lexChars source = (lexChars (takeExec rest).2).map fun tokens =>
      rawToken literal ++ .exec (String.ofList (takeExec rest).1) :: tokens := by
  conv => lhs; unfold lexChars
  dsimp only
  split
  · next opened =>
    rw [taken] at opened
    cases opened
  · next c behind opened =>
    rw [taken] at opened
    cases opened
    rw [if_neg (by decide), taken]

/-- Induction along a template: it is literal text alone, or its first block is a branch or an exec
block and what holds of the template behind the block carries over. -/
theorem template_induction {motive : List Char → Prop}
    (literal : ∀ source text, takeEscaped opensBlock source = (text, []) → motive source)
    (branch : ∀ source text rest, takeEscaped opensBlock source = (text, '[' :: rest) →
      (∀ token after, lexBranch rest = .ok (token, after) → motive after) → motive source)
    (exec : ∀ source text rest, takeEscaped opensBlock source = (text, '{' :: rest) →
      motive (takeExec rest).2 → motive source)
    (source : List Char) : motive source := by
  induction bound : source.length using Nat.strongRecOn generalizing source with
  | _ length ih =>
    subst bound
    have shorter := takeEscaped_length opensBlock source
    cases taken : takeEscaped opensBlock source with
    | mk text rest =>
      rw [taken] at shorter
      cases takeEscaped_iff.mp taken with
      | ended | lone => exact literal _ text taken
      | @stopped _ _ c rest _ _ stop =>
        have opens : c = '[' ∨ c = '{' := by simpa [opensBlock] using stop
        rcases opens with rfl | rfl
        · refine branch _ text rest taken fun token after found => ih _ ?_ after rfl
          exact Nat.lt_of_lt_of_le (Nat.lt_succ_of_lt (lexBranch_length found)) shorter
        · refine exec _ text rest taken (ih _ ?_ _ rfl)
          exact Nat.lt_of_le_of_lt (takeExec_length rest) shorter

/-- The source ends here or goes on with a block. -/
def BlockNext (source : List Char) : Prop := ∀ c ∈ source.head?, opensBlock c = true

theorem takeEscaped_blockNext (next : BlockNext source) :
    takeEscaped opensBlock source = ([], source) := by
  cases source with
  | nil => rfl
  | cons c rest =>
    have opens : opensBlock c = true := next c rfl
    have bare : c ≠ '\\' := by
      rintro rfl
      cases opens
    exact takeEscaped_stop bare opens rest

/-- A template that starts with a branch. -/
theorem lexChars_bracket (rest : List Char) :
    lexChars ('[' :: rest) =
      lexBranch rest >>= fun found => (lexChars found.2).map (found.1 :: ·) := by
  rw [lexChars_branch (takeEscaped_stop (by decide) (by decide) rest)]
  rfl

/-- A template that starts with an exec block. -/
theorem lexChars_brace (rest : List Char) :
    lexChars ('{' :: rest) =
      (lexChars (takeExec rest).2).map (.exec (String.ofList (takeExec rest).1) :: ·) := by
  rw [lexChars_exec (takeEscaped_stop (by decide) (by decide) rest)]
  rfl

/-- Literal text in front of a block becomes one token in front. -/
theorem lexChars_append (front : Spells opensBlock fragment literal) (next : BlockNext source) :
    lexChars (fragment ++ source) = (lexChars source).map (rawToken literal ++ ·) := by
  have joined : takeEscaped opensBlock (fragment ++ source) = (literal, source) := by
    rw [takeEscaped_append front, takeEscaped_blockNext next, List.append_nil]
  cases source with
  | nil =>
    rw [lexChars_literal joined, lexChars_literal (takeEscaped_blockNext next)]
    simp [rawToken, Except.map]
  | cons c rest =>
    have opens : c = '[' ∨ c = '{' := by simpa [BlockNext, opensBlock] using next
    rcases opens with rfl | rfl
    · rw [lexChars_bracket, lexChars_branch joined]
      cases lexBranch rest with
      | error fault => rfl
      | ok found =>
        simp only [bind, Except.bind]
        cases lexChars found.2 <;> rfl
    · rw [lexChars_brace, lexChars_exec joined]
      cases lexChars (takeExec rest).2 <;> rfl

end ChatTemplate.Scanning
