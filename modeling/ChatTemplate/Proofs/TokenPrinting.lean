import Mathlib.Data.List.Chain
import ChatTemplate.Proofs.Scanning

/-! Writing tokens as a template. Each token has a spelling of its own, in which only the characters
that would end it early are escaped. Reading what is written gives the tokens back, and the
well-formed lists of tokens are exactly those that some template holds. -/
namespace ChatTemplate.TokenPrinting
open Spelling Scanning Trimming

/-- A token as a template can hold it: some literal text, a condition that is not blank for all
branches but the fallback, and a body that its parenthesis closes. -/
def Ready : Token → Prop
  | .raw text => text ≠ ""
  | .branch .elseBranch predicate body => predicate = none ∧ Closed body.toList
  | .branch _ predicate body =>
    (∃ condition, predicate = some condition ∧ Text.trimmed condition ≠ "") ∧ Closed body.toList
  | .exec _ => True

def isRaw : Token → Bool
  | .raw _ => true
  | _ => false

/-- The lists of tokens that a template can hold. Literal texts side by side would be one. -/
structure WellFormed (tokens : List Token) : Prop where
  ready : ∀ token ∈ tokens, Ready token
  apart : tokens.IsChain fun first second => ¬ (isRaw first = true ∧ isRaw second = true)

/-- A text with a backslash before every character in need of one. -/
def escape (marks : List Char) (text : List Char) : List Char :=
  text.flatMap fun c => if c ∈ marks then ['\\', c] else [c]

def writtenCondition : Option String → List Char
  | none => []
  | some condition => ' ' :: escape ['\\', ']'] condition.toList

/-- The spelling of a token. A body stands as it is, since it keeps its own escapes. -/
def written : Token → List Char
  | .raw text => escape ['\\', '[', '{'] text.toList
  | .branch kind predicate body =>
    '[' :: (kind.keyword.toList ++ writtenCondition predicate ++ ']' :: '(' :: (body.toList ++ [')']))
  | .exec text => '{' :: (escape ['\\', '}'] text.toList ++ ['}'])

/-- The template that spells the tokens one after another. -/
def template (tokens : List Token) : String := String.ofList (tokens.flatMap written)

private theorem ready_of_lexBranch (ended : lexBranch source = .ok (token, after)) :
    Ready token ∧ isRaw token = false := by
  obtain ⟨word, predicate, rest, head⟩ := head_exists source
  obtain ⟨kind, condition, body, _, checked, _, closed, rfl⟩ := (lexBranch_iff head).mp ended
  have closed : Closed (String.ofList body).toList := by simpa using closed
  refine ⟨?_, rfl⟩
  rcases checkPredicate_iff.mp checked with ⟨rfl, _, rfl⟩ | ⟨other, filled, rfl⟩
  · exact ⟨rfl, closed⟩
  · have shown : Text.trimmed (String.ofList predicate) ≠ "" := by
      simpa [trimmed_eq_empty_iff] using filled
    cases kind with
    | ifBranch | elifBranch => exact ⟨⟨_, rfl, shown⟩, closed⟩
    | elseBranch => exact absurd rfl other

/-- A token in front keeps a list well-formed unless two literal texts meet. -/
theorem wellFormed_cons_iff : WellFormed (token :: rest) ↔
    Ready token ∧ (∀ next ∈ rest.head?, ¬ (isRaw token = true ∧ isRaw next = true)) ∧
      WellFormed rest := by
  constructor
  · rintro ⟨ready, apart⟩
    obtain ⟨front, back⟩ := List.isChain_cons.mp apart
    exact ⟨ready token List.mem_cons_self, front,
      fun next member => ready next (List.mem_cons_of_mem token member), back⟩
  · rintro ⟨first, front, ready, apart⟩
    refine ⟨fun next member => ?_, List.isChain_cons.mpr ⟨front, apart⟩⟩
    rcases List.mem_cons.mp member with rfl | behind
    · exact first
    · exact ready next behind

private theorem wellFormed_nil : WellFormed [] := ⟨nofun, .nil⟩

private theorem wellFormed_literal (literal : List Char)
    (block : ∀ next ∈ tokens.head?, isRaw next = false) (rest : WellFormed tokens) :
    WellFormed (rawToken literal ++ tokens) := by
  unfold rawToken
  split
  · exact rest
  · next some =>
    have shown : String.ofList literal ≠ "" := by simpa using some
    refine wellFormed_cons_iff.mpr ⟨shown, fun next first both => ?_, rest⟩
    rw [block next first] at both
    exact absurd both.2 (by decide)

private theorem wellFormed_block (ready : Ready token) (block : isRaw token = false)
    (rest : WellFormed tokens) (literal : List Char) :
    WellFormed (rawToken literal ++ token :: tokens) := by
  refine wellFormed_literal literal (fun next first => ?_) ?_
  · cases first
    exact block
  · refine wellFormed_cons_iff.mpr ⟨ready, fun next _ both => ?_, rest⟩
    rw [block] at both
    exact absurd both.1 (by decide)

theorem wellFormed_of_lexChars (ended : lexChars source = .ok tokens) : WellFormed tokens := by
  induction source using template_induction generalizing tokens with
  | literal source text taken =>
    rw [lexChars_literal taken] at ended
    cases ended
    have none : ∀ next ∈ ([] : List Token).head?, isRaw next = false := nofun
    simpa using wellFormed_literal text none wellFormed_nil
  | branch source text rest taken ih =>
    rw [lexChars_branch taken] at ended
    obtain ⟨⟨token, after⟩, found, ended⟩ := ok_of_bind ended
    obtain ⟨inner, behind, rfl⟩ := ok_of_map ended
    obtain ⟨ready, block⟩ := ready_of_lexBranch found
    exact wellFormed_block ready block (ih token after found behind) text
  | exec source text rest taken ih =>
    rw [lexChars_exec taken] at ended
    obtain ⟨inner, behind, rfl⟩ := ok_of_map ended
    exact wellFormed_block (show Ready (.exec _) from trivial) rfl (ih behind) text

/-! ### Every well-formed list is read back from its spelling -/

/-- An escaped text stands for the text itself, for every stop among the marks. -/
theorem spells_escape (slash : '\\' ∈ marks) (marked : ∀ c, stops c = true → c ∈ marks)
    (text : List Char) : Spells stops (escape marks text) text := by
  induction text with
  | nil => exact .nil
  | cons c rest ih =>
    by_cases mark : c ∈ marks
    · simpa [escape, mark] using Spells.escaped c ih
    · have bare : c ≠ '\\' := fun same => mark (same ▸ slash)
      have inside : stops c = false := by
        rw [Bool.eq_false_iff]
        exact fun stop => mark (marked c stop)
      simpa [escape, mark] using Spells.plain bare inside ih

private theorem spells_condition (condition : List Char) :
    Spells (· = ']') (escape ['\\', ']'] condition) condition :=
  spells_escape (by simp) (by simp) condition

private theorem spells_keyword (kind : BranchKind) :
    Spells endsKeyword kind.keyword.toList kind.keyword.toList := by
  refine spells_self ?_
  cases kind <;> simp [BranchKind.keyword, endsKeyword]

/-- The head of a written branch is its keyword and its condition. -/
private theorem head_written (kind : BranchKind) (predicate : Option String) (behind : List Char) :
    Head (kind.keyword.toList ++ (writtenCondition predicate ++ ']' :: behind))
      kind.keyword.toList ((predicate.getD "").toList) (']' :: behind) := by
  cases predicate with
  | none =>
    have keyword : Reads endsKeyword (kind.keyword.toList ++ ']' :: behind) _ _ :=
      .stopped (spells_keyword kind) (by decide) (by decide)
    exact .bare keyword (by simp)
  | some condition =>
    have keyword : Reads endsKeyword (kind.keyword.toList ++
        ' ' :: (escape ['\\', ']'] condition.toList ++ ']' :: behind)) _ _ :=
      .stopped (spells_keyword kind) (by decide) (by decide)
    exact .spaced keyword (.stopped (spells_condition condition.toList) (by decide) (by decide))

private theorem lexBranch_written (ready : Ready (.branch kind predicate body))
    (behind : List Char) :
    lexBranch (kind.keyword.toList ++
        (writtenCondition predicate ++ ']' :: '(' :: (body.toList ++ ')' :: behind))) =
      .ok (.branch kind predicate body, behind) := by
  have head := head_written kind predicate ('(' :: (body.toList ++ ')' :: behind))
  have known : BranchKind.ofKeyword? (String.ofList kind.keyword.toList) = some kind := by
    rw [String.ofList_toList, BranchKind.ofKeyword?_eq_some_iff]
  have fits : checkPredicate kind (predicate.getD "").toList = .ok predicate ∧
      Closed body.toList := by
    rw [checkPredicate_iff]
    cases kind with
    | elseBranch =>
      obtain ⟨rfl, closed⟩ := ready
      exact ⟨.inl ⟨rfl, by simp [Blank], rfl⟩, closed⟩
    | ifBranch | elifBranch =>
      obtain ⟨⟨condition, rfl, shown⟩, closed⟩ := ready
      have filled : ¬ Blank condition.toList := fun blank => shown (trimmed_eq_empty_iff.mpr blank)
      exact ⟨.inr ⟨by decide, filled, by simp⟩, closed⟩
  exact (lexBranch_iff head).mpr
    ⟨kind, predicate, body.toList, known, fits.1, rfl, fits.2, by simp⟩

/-- A block that is ready is read back in front of every template. -/
private theorem lexChars_block (ready : Ready token) (block : isRaw token = false)
    (behind : List Char) :
    lexChars (written token ++ behind) = (lexChars behind).map (token :: ·) := by
  cases token with
  | raw text => cases block
  | branch kind predicate body =>
    have found := lexBranch_written ready behind
    simp only [written, List.cons_append, List.append_assoc, List.nil_append]
    rw [lexChars_bracket, found]
    rfl
  | exec text =>
    have inside : Spells (· = '}') (escape ['\\', '}'] text.toList) text.toList :=
      spells_escape (by simp) (by simp) _
    simp only [written, List.cons_append, List.append_assoc, List.nil_append]
    rw [lexChars_brace, takeExec_closed inside, String.ofList_toList]

/-- Literal text is read back where no further literal text follows. -/
private theorem lexChars_raw (ready : Ready (.raw text)) (next : BlockNext behind) :
    lexChars (written (.raw text) ++ behind) = (lexChars behind).map (.raw text :: ·) := by
  have spelled : Spells opensBlock (written (.raw text)) text.toList :=
    spells_escape (by simp) (by simp [opensBlock]) _
  have shown : text.toList ≠ [] := by simpa [Ready] using ready
  rw [lexChars_append spelled next]
  simp [rawToken, shown]

private theorem blockNext_written {tokens : List Token}
    (blocks : ∀ next ∈ tokens.head?, isRaw next = false) : BlockNext (tokens.flatMap written) := by
  cases tokens with
  | nil => exact nofun
  | cons token rest =>
    have block := blocks token rfl
    cases token with
    | raw text => cases block
    | branch | exec => simp [BlockNext, written, opensBlock]

theorem lexChars_written (wellFormed : WellFormed tokens) :
    lexChars (tokens.flatMap written) = .ok tokens := by
  induction tokens with
  | nil =>
    have none : takeEscaped opensBlock [] = ([], []) := rfl
    exact lexChars_literal none
  | cons token rest ih =>
    obtain ⟨ready, apart, inner⟩ := wellFormed_cons_iff.mp wellFormed
    have step : lexChars (written token ++ rest.flatMap written) =
        (lexChars (rest.flatMap written)).map (token :: ·) := by
      cases kind : isRaw token with
      | false => exact lexChars_block ready kind _
      | true =>
        have blocks : ∀ next ∈ rest.head?, isRaw next = false := fun next first => by
          simpa [kind] using apart next first
        cases token with
        | raw text => exact lexChars_raw ready (blockNext_written blocks)
        | branch | exec => cases kind
    rw [List.flatMap_cons, step, ih inner]
    rfl

/-- Whatever a template is read as is well-formed, and a well-formed list is read back from the
template that spells it. So the well-formed lists are exactly what reading can give. -/
theorem lex_image (tokens : List Token) :
    (∀ source, lex source = .ok tokens → WellFormed tokens) ∧
      (WellFormed tokens → lex (template tokens) = .ok tokens) := by
  refine ⟨fun source ended => wellFormed_of_lexChars ended, fun wellFormed => ?_⟩
  rw [lex, template, String.toList_ofList]
  exact lexChars_written wellFormed

/-- Every character that has to be escaped, and a body with an escaped parenthesis among others. -/
theorem lex_image_escaped_marks :
    lex "a\\\\\\[\\\x7b[if x\\]\\\\](f(\\)))[else]()\x7bp\\\x7dq\x7d" =
        .ok [.raw "a\\[\x7b", .branch .ifBranch (some "x]\\") "f(\\))",
          .branch .elseBranch none "", .exec "p\x7dq"] ∧
      WellFormed [.raw "a\\[\x7b", .branch .ifBranch (some "x]\\") "f(\\))",
          .branch .elseBranch none "", .exec "p\x7dq"] := by
  have closed : Closed "f(\\))".toList := ⟨['f', '(', ')'], by decide, by
    rw [balanced_other (by decide) (by decide), balanced_open, balanced_close]
    exact ⟨0, rfl, balanced_nil.mpr rfl⟩⟩
  have empty : Closed "".toList := ⟨[], rfl, balanced_nil.mpr rfl⟩
  have shown : Text.trimmed "x]\\" ≠ "" := by decide
  have wellFormed : WellFormed [.raw "a\\[\x7b", .branch .ifBranch (some "x]\\") "f(\\))",
      .branch .elseBranch none "", .exec "p\x7dq"] := by
    simpa [wellFormed_cons_iff, wellFormed_nil, Ready, isRaw, shown] using And.intro closed empty
  have read := (lex_image _).2 wellFormed
  exact ⟨read, (lex_image _).1 _ read⟩

end ChatTemplate.TokenPrinting
