import ChatTemplate.Proofs.Scanning

/-! The language of templates, stated without a scanner. A template is a sequence of items: plain
characters, escapes, exec blocks and branches. A text that is none has a first bracket that opens no
branch, and the fault reported is the first that applies there. -/
namespace ChatTemplate.DocumentGrammar
open Spelling Scanning Trimming

/-- The keywords, each with the conditions it takes. -/
def Admits (word predicate : List Char) : Prop :=
  ((word = "if".toList ∨ word = "elif".toList) ∧ ¬ Blank predicate) ∨
    (word = "else".toList ∧ Blank predicate)

/-- A branch from behind its opening bracket, and what follows it. Keyword and condition drop their
escapes, the condition may be absent, and the body ends where its parenthesis closes. -/
inductive Branch : List Char → List Char → Prop where
  | bare (keyword : Spells endsKeyword fragment word) (fits : Admits word [])
      (closed : Closed body) : Branch (fragment ++ ']' :: '(' :: (body ++ ')' :: after)) after
  | conditioned (keyword : Spells endsKeyword fragment word)
      (condition : Spells (· = ']') spelled predicate) (fits : Admits word predicate)
      (closed : Closed body) :
      Branch (fragment ++ ' ' :: (spelled ++ ']' :: '(' :: (body ++ ')' :: after))) after

/-- One item of a template and what follows it. An exec block may run to the end of the text, and a
backslash may be the end. -/
inductive Item : List Char → List Char → Prop where
  | plain (bare : c ≠ '\\' ∧ c ≠ '[' ∧ c ≠ '{') : Item (c :: after) after
  | escaped (c : Char) : Item ('\\' :: c :: after) after
  | lone : Item ['\\'] []
  | exec (inside : Spells (· = '}') fragment text) : Item ('{' :: (fragment ++ '}' :: after)) after
  | unclosed (inside : Reads (· = '}') source text []) : Item ('{' :: source) []
  | branch (branch : Branch source after) : Item ('[' :: source) after

/-- A template: items up to the end of the text. -/
inductive Document : List Char → Prop where
  | nil : Document []
  | item (first : Item source after) (rest : Document after) : Document source

/-- What is wrong behind a bracket that opens no branch. Each cause presumes that the ones before it
do not apply. -/
inductive Refusal : List Char → String → Prop where
  | keyword (head : Head source word predicate rest)
      (unknown : word ∉ ["if".toList, "elif".toList, "else".toList]) :
      Refusal source "Invalid if statement type"
  | missing (head : Head source word predicate rest)
      (conditional : word = "if".toList ∨ word = "elif".toList) (blank : Blank predicate) :
      Refusal source "If statement missing boolean expression"
  | unexpected (head : Head source word predicate rest) (fallback : word = "else".toList)
      (filled : ¬ Blank predicate) :
      Refusal source "Else statement contains unexpected boolean expression"
  | bodiless (head : Head source word predicate rest) (fits : Admits word predicate)
      (without : ¬ ∃ behind, rest = ']' :: '(' :: behind) :
      Refusal source "If statement missing result"
  | unclosed (head : Head source word predicate (']' :: '(' :: behind))
      (fits : Admits word predicate)
      (unmatched : ¬ ∃ body after, behind = body ++ ')' :: after ∧ Closed body) :
      Refusal source "Unexpected end of expression"

/-- The fault of the first bracket that opens no branch. Everything in front of it is in order. -/
inductive FirstFault : List Char → String → Prop where
  | here (refused : Refusal source message) : FirstFault ('[' :: source) message
  | item (first : Item source after) (rest : FirstFault after message) : FirstFault source message

private theorem ofKeyword?_eq_none_iff : BranchKind.ofKeyword? (String.ofList word) = none ↔
    word ∉ ["if".toList, "elif".toList, "else".toList] := by
  have spelled (name : String) : name = String.ofList word ↔ word = name.toList := by
    rw [eq_comm, ← String.toList_inj, String.toList_ofList]
  simp [BranchKind.ofKeyword?, BranchKind.keyword, spelled]

/-- The keywords that need a condition name a kind other than the fallback. -/
private theorem conditional_kind (conditional : word = "if".toList ∨ word = "elif".toList) :
    ∃ kind, BranchKind.ofKeyword? (String.ofList word) = some kind ∧ kind ≠ .elseBranch := by
  rcases conditional with rfl | rfl
  · exact ⟨.ifBranch, by decide, by decide⟩
  · exact ⟨.elifBranch, by decide, by decide⟩

private theorem fallback_kind (fallback : word = "else".toList) :
    BranchKind.ofKeyword? (String.ofList word) = some .elseBranch := by
  subst fallback
  decide

private theorem admits_check (fits : Admits word predicate) :
    ∃ kind condition, BranchKind.ofKeyword? (String.ofList word) = some kind ∧
      checkPredicate kind predicate = .ok condition := by
  rcases fits with ⟨conditional, filled⟩ | ⟨fallback, blank⟩
  · obtain ⟨kind, known, other⟩ := conditional_kind conditional
    exact ⟨kind, _, known, checkPredicate_iff.mpr (.inr ⟨other, filled, rfl⟩)⟩
  · exact ⟨_, _, fallback_kind fallback, checkPredicate_iff.mpr (.inl ⟨rfl, blank, rfl⟩)⟩

/-- A fault that a report calls a syntax error, with its words. -/
def Reports (fault : Fault) (message : String) : Prop :=
  fault.kind = .malformed ∧ fault.message = message

/-- A branch is a head that fits, with a closed body right behind it. -/
theorem branch_iff_head : Branch source after ↔ ∃ word predicate body,
    Head source word predicate (']' :: '(' :: (body ++ ')' :: after)) ∧ Admits word predicate ∧
      Closed body := by
  constructor
  · intro branch
    cases branch with
    | bare keyword fits closed =>
      exact ⟨_, _, _, .bare (.stopped keyword (by decide) (by decide)) (by simp), fits, closed⟩
    | conditioned keyword condition fits closed =>
      exact ⟨_, _, _, .spaced (.stopped keyword (by decide) (by decide))
        (.stopped condition (by decide) (by decide)), fits, closed⟩
  · rintro ⟨word, predicate, body, head, fits, closed⟩
    cases head with
    | bare keyword unspaced =>
      cases keyword with
      | stopped front bare stop => exact .bare front fits closed
    | spaced keyword condition =>
      cases keyword with
      | stopped front bare stop =>
        cases condition with
        | stopped inner last ends => exact .conditioned front inner fits closed

theorem lexBranch_branch (branch : Branch source after) :
    ∃ token, lexBranch source = .ok (token, after) := by
  obtain ⟨word, predicate, body, head, fits, closed⟩ := branch_iff_head.mp branch
  obtain ⟨kind, condition, known, checked⟩ := admits_check fits
  exact ⟨_, (lexBranch_iff head).mpr ⟨kind, condition, body, known, checked, rfl, closed, rfl⟩⟩

theorem lexBranch_refusal (refused : Refusal source message) :
    ∃ fault, lexBranch source = .error fault ∧ Reports fault message := by
  cases refused with
  | keyword head unknown =>
    rw [lexBranch_head head, ofKeyword?_eq_none_iff.mpr unknown]
    exact ⟨_, rfl, rfl, rfl⟩
  | missing head conditional blank =>
    obtain ⟨kind, known, other⟩ := conditional_kind conditional
    have failed := checkPredicate_error_iff.mpr (.inl ⟨other, blank, rfl⟩)
    rw [lexBranch_head head, known]
    exact ⟨.missingPredicate, by simp only [failed]; rfl, rfl, rfl⟩
  | unexpected head fallback filled =>
    have failed := checkPredicate_error_iff.mpr (.inr ⟨rfl, filled, rfl⟩)
    rw [lexBranch_head head, fallback_kind fallback]
    exact ⟨.unexpectedPredicate, by simp only [failed]; rfl, rfl, rfl⟩
  | bodiless head fits without =>
    obtain ⟨kind, condition, known, checked⟩ := admits_check fits
    rw [lexBranch_head head, known]
    exact ⟨.missingBody, by simp only [checked, lexBody_missing without]; rfl, rfl, rfl⟩
  | unclosed head fits unmatched =>
    obtain ⟨kind, condition, known, checked⟩ := admits_check fits
    rw [lexBranch_head head, known]
    exact ⟨.unclosedBody, by simp only [checked, lexBody_unclosed unmatched]; rfl, rfl, rfl⟩

private theorem body_or_refusal (head : Head source word predicate rest)
    (fits : Admits word predicate) :
    (∃ after, Branch source after) ∨ ∃ message, Refusal source message := by
  by_cases opened : ∃ behind, rest = ']' :: '(' :: behind
  · obtain ⟨behind, rfl⟩ := opened
    by_cases matched : ∃ body after, behind = body ++ ')' :: after ∧ Closed body
    · obtain ⟨body, after, rfl, closed⟩ := matched
      exact .inl ⟨after, branch_iff_head.mpr ⟨word, predicate, body, head, fits, closed⟩⟩
    · exact .inr ⟨_, .unclosed head fits matched⟩
  · exact .inr ⟨_, .bodiless head fits opened⟩

theorem branch_or_refusal (source : List Char) :
    (∃ after, Branch source after) ∨ ∃ message, Refusal source message := by
  obtain ⟨word, predicate, rest, head⟩ := head_exists source
  by_cases conditional : word = "if".toList ∨ word = "elif".toList
  · by_cases blank : Blank predicate
    · exact .inr ⟨_, .missing head conditional blank⟩
    · exact body_or_refusal head (.inl ⟨conditional, blank⟩)
  · by_cases fallback : word = "else".toList
    · by_cases blank : Blank predicate
      · exact body_or_refusal head (.inr ⟨fallback, blank⟩)
      · exact .inr ⟨_, .unexpected head fallback blank⟩
    · exact .inr ⟨_, .keyword head (by simp_all)⟩

private theorem branch_shortens (branch : Branch source after) : after.length < source.length := by
  cases branch <;> simp only [List.length_append, List.length_cons] <;> omega

theorem item_shortens (item : Item source after) : after.length < source.length := by
  cases item with
  | plain | lone | unclosed => simp
  | escaped => exact Nat.lt_succ_of_lt (Nat.lt_succ_self _)
  | exec => simp only [List.length_append, List.length_cons]; omega
  | branch branch => exact Nat.lt_succ_of_lt (branch_shortens branch)

private theorem exec_item (source : List Char) : ∃ after, Item ('{' :: source) after := by
  have reads := takeEscaped_sound (· = '}') source
  cases taken : takeEscaped (· = '}') source with
  | mk text rest =>
    rw [taken] at reads
    cases reads with
    | @stopped _ _ c after front bare stop =>
      obtain rfl : c = '}' := by simpa using stop
      exact ⟨after, .exec front⟩
    | ended front => exact ⟨[], .unclosed (.ended front)⟩
    | lone front => exact ⟨[], .unclosed (.lone front)⟩

theorem item_or_refusal (source : List Char) : source = [] ∨ (∃ after, Item source after) ∨
    ∃ behind message, source = '[' :: behind ∧ Refusal behind message := by
  cases source with
  | nil => exact .inl rfl
  | cons c rest =>
    refine .inr ?_
    by_cases slash : c = '\\'
    · subst slash
      cases rest with
      | nil => exact .inl ⟨[], .lone⟩
      | cons next after => exact .inl ⟨after, .escaped next⟩
    · by_cases bracket : c = '['
      · subst bracket
        rcases branch_or_refusal rest with ⟨after, branch⟩ | ⟨message, refused⟩
        · exact .inl ⟨after, .branch branch⟩
        · exact .inr ⟨rest, message, rfl, refused⟩
      · by_cases brace : c = '{'
        · subst brace
          exact .inl (exec_item rest)
        · exact .inl ⟨rest, .plain ⟨slash, bracket, brace⟩⟩

/-- A text that is no template has a first fault. -/
theorem document_or_fault (source : List Char) :
    Document source ∨ ∃ message, FirstFault source message := by
  induction bound : source.length using Nat.strongRecOn generalizing source with
  | _ length ih =>
    subst bound
    rcases item_or_refusal source with rfl | ⟨after, first⟩ | ⟨behind, message, rfl, refused⟩
    · exact .inl .nil
    · rcases ih after.length (item_shortens first) after rfl with rest | ⟨message, rest⟩
      · exact .inl (.item first rest)
      · exact .inr ⟨message, .item first rest⟩
    · exact .inr ⟨message, .here refused⟩

/-! ### The scanner steps over one item at a time -/

/-- Whether a text is accepted, and else its fault. -/
def verdict (source : List Char) : Except Fault Unit := (lexChars source).map fun _ => ()

private theorem verdict_map (f : List Token → List Token)
    (same : lexChars source = (lexChars after).map f) : verdict source = verdict after := by
  unfold verdict
  rw [same]
  cases lexChars after <;> rfl

/-- Literal text has no say in the verdict. -/
private theorem verdict_literal (reads : Reads opensBlock source literal rest) :
    verdict source = verdict rest := by
  cases reads with
  | stopped front bare stop =>
    exact verdict_map _ (lexChars_append front (by simpa [BlockNext] using stop))
  | ended front =>
    have ended : BlockNext [] := by simp [BlockNext]
    have whole := lexChars_append front ended
    rw [List.append_nil] at whole
    exact verdict_map _ whole
  | lone front =>
    have alone := lexChars_literal (takeEscaped_complete (.lone front))
    unfold verdict
    rw [alone, lexChars_literal rfl]
    rfl

private theorem verdict_bracket (source : List Char) :
    verdict ('[' :: source) = lexBranch source >>= fun found => verdict found.2 := by
  unfold verdict
  rw [lexChars_bracket]
  cases lexBranch source with
  | error fault => rfl
  | ok found =>
    simp only [bind, Except.bind]
    cases lexChars found.2 <;> rfl

private theorem verdict_brace (source : List Char) :
    verdict ('{' :: source) = verdict (takeExec source).2 :=
  verdict_map _ (lexChars_brace source)

theorem verdict_item (item : Item source after) : verdict source = verdict after := by
  cases item with
  | @plain c _ bare =>
    have reads := takeEscaped_sound opensBlock after
    have inside : opensBlock c = false := by simp [opensBlock, bare]
    rw [verdict_literal (reads.plain bare.1 inside), verdict_literal reads]
  | escaped c =>
    have reads := takeEscaped_sound opensBlock after
    rw [verdict_literal (reads.escaped c), verdict_literal reads]
  | lone => exact verdict_literal (.lone .nil)
  | exec inside => rw [verdict_brace, takeExec_closed inside]
  | unclosed inside => rw [verdict_brace, takeExec_open inside]
  | branch branch =>
    obtain ⟨token, found⟩ := lexBranch_branch branch
    rw [verdict_bracket, found]
    rfl

theorem verdict_document (document : Document source) : verdict source = .ok () := by
  induction document with
  | nil => rw [verdict, lexChars_literal rfl]; rfl
  | item first rest ih => rw [verdict_item first, ih]

theorem verdict_firstFault (first : FirstFault source message) :
    ∃ fault, verdict source = .error fault ∧ Reports fault message := by
  induction first with
  | @here source message refused =>
    obtain ⟨fault, failed, reported⟩ := lexBranch_refusal refused
    exact ⟨fault, by rw [verdict_bracket, failed]; rfl, reported⟩
  | item first rest ih => rwa [verdict_item first]

/-- No text is both a template and at fault. -/
theorem not_document_of_firstFault (first : FirstFault source message) : ¬ Document source := by
  intro document
  obtain ⟨fault, failed, -⟩ := verdict_firstFault first
  rw [verdict_document document] at failed
  cases failed

theorem verdict_ok_iff : verdict source = .ok () ↔ Document source := by
  refine ⟨fun accepted => ?_, verdict_document⟩
  rcases document_or_fault source with document | ⟨message, first⟩
  · exact document
  · obtain ⟨fault, failed, -⟩ := verdict_firstFault first
    rw [accepted] at failed
    cases failed

theorem verdict_error_iff :
    (∃ fault, verdict source = .error fault ∧ Reports fault message) ↔ FirstFault source message := by
  refine ⟨fun ⟨fault, failed, reported⟩ => ?_, verdict_firstFault⟩
  rcases document_or_fault source with document | ⟨found, first⟩
  · rw [verdict_document document] at failed
    cases failed
  · obtain ⟨other, again, named⟩ := verdict_firstFault first
    rw [failed] at again
    cases again
    rw [← reported.2, named.2]
    exact first

/-- A text is read into tokens exactly where it is a template. Every other text has a first fault,
and what reading it reports is that fault and nothing else. -/
theorem lex_verdict (source : String) :
    ((∃ tokens, lex source = .ok tokens) ↔ Document source.toList) ∧
      ((∃ message, FirstFault source.toList message) ↔ ¬ Document source.toList) ∧
      ∀ message, FirstFault source.toList message ↔
        ∃ fault, lex source = .error fault ∧ Reports fault message := by
  have accepted : (∃ tokens, lex source = .ok tokens) ↔ verdict source.toList = .ok () := by
    unfold verdict lex
    cases lexChars source.toList <;> simp [Except.map]
  have refused (fault : Fault) :
      lex source = .error fault ↔ verdict source.toList = .error fault := by
    unfold verdict lex
    cases lexChars source.toList <;> simp [Except.map]
  refine ⟨accepted.trans verdict_ok_iff, ⟨?_, ?_⟩, fun message => ?_⟩
  · rintro ⟨message, first⟩
    exact not_document_of_firstFault first
  · exact (document_or_fault source.toList).resolve_left
  · simp only [refused]
    exact verdict_error_iff.symm

end ChatTemplate.DocumentGrammar
