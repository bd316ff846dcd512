import Mathlib.Control.Monad.Basic
import ChatTemplate.Proofs.DocumentGrammar
import ChatTemplate.Rendering.Source

/-! Where the openings that the fast path looks for stand in a template. An opening is a brace, or a
bracket with a keyword as it is written and a space or a bracket behind it. Every exec block has
one, and so has every branch whose keyword is written without an escape; a keyword may hold
escapes, though, and then the opening goes unseen. -/
namespace ChatTemplate.BlockOpenings
open Spelling Scanning DocumentGrammar

theorem hasOpening_append (front : List Char) (opened : hasOpening behind = true) :
    hasOpening (front ++ behind) = true := by
  induction front with
  | nil => exact opened
  | cons c rest ih => simp [hasOpening, ih]

/-- A brace opens a block wherever it stands. -/
theorem hasOpening_of_brace (brace : '{' ∈ text) : hasOpening text = true := by
  obtain ⟨front, behind, rfl⟩ := List.append_of_mem brace
  refine hasOpening_append front ?_
  simp [hasOpening, opensHere]

/-- A bracket with a plain keyword behind it opens a branch. -/
theorem hasOpening_keyword (kind : BranchKind) (ends : endsKeyword ending = true)
    (behind : List Char) :
    hasOpening ('[' :: (kind.keyword.toList ++ ending :: behind)) = true := by
  have mark : ending = ' ' ∨ ending = ']' := by simpa [endsKeyword] using ends
  rcases mark with rfl | rfl <;> cases kind <;> simp [hasOpening, opensHere, BranchKind.keyword]

/-- A place in a template that whole items lead to. -/
inductive Reaches : List Char → List Char → Prop where
  | refl : Reaches source source
  | item (first : Item source next) (rest : Reaches next place) : Reaches source place

/-- Behind a bracket, a backslash stands before the keyword ends. -/
def EscapedKeyword (behind : List Char) : Prop :=
  '\\' ∈ behind.takeWhile fun c => !endsKeyword c

/-- A template with blocks, each of which is a branch with an escape in its keyword. -/
structure OnlyEscapedKeywords (source : List Char) : Prop where
  some : ∃ behind, Reaches source ('[' :: behind)
  none : ∀ behind, ¬ Reaches source ('{' :: behind)
  escaped : ∀ behind, Reaches source ('[' :: behind) → EscapedKeyword behind

private theorem branch_suffix (branch : Branch source after) : after <:+ source := by
  cases branch with
  | @bare fragment word body after keyword fits closed =>
    exact ⟨fragment ++ ']' :: '(' :: (body ++ [')']), by simp⟩
  | @conditioned fragment word spelled predicate body after keyword condition fits closed =>
    exact ⟨fragment ++ ' ' :: (spelled ++ ']' :: '(' :: (body ++ [')'])), by simp⟩

private theorem item_suffix (item : Item source after) : after <:+ source := by
  cases item with
  | plain => exact List.suffix_cons _ _
  | escaped c => exact ⟨['\\', c], rfl⟩
  | lone | unclosed => exact List.nil_suffix
  | @exec fragment text after inside => exact ⟨'{' :: (fragment ++ ['}']), by simp⟩
  | branch branch => exact (branch_suffix branch).trans (List.suffix_cons _ _)

/-- A place holds all that is left of the template. -/
theorem reaches_suffix (reaches : Reaches source place) : place <:+ source := by
  induction reaches with
  | refl => exact List.suffix_refl _
  | item first rest ih => exact ih.trans (item_suffix first)

/-- A template is in order exactly where it is in order from a place on. -/
theorem reaches_verdict (reaches : Reaches source place) : verdict source = verdict place := by
  induction reaches with
  | refl => rfl
  | item first rest ih => rw [verdict_item first, ih]

/-- Literal text leads to what follows it. -/
theorem reaches_literal (front : Spells opensBlock fragment text) (rest : List Char) :
    Reaches (fragment ++ rest) rest := by
  induction front with
  | nil => exact .refl
  | @plain c fragment text bare inside front ih =>
    have mark : c ≠ '[' ∧ c ≠ '{' := by simpa [opensBlock] using inside
    exact .item (.plain ⟨bare, mark.1, mark.2⟩) ih
  | escaped c front ih => exact .item (.escaped c) ih

/-- A text with a token other than literal text has a block. -/
theorem exists_block (read : lexChars source = .ok tokens)
    (block : ∃ token ∈ tokens, token.instruction ≠ .raw) :
    ∃ mark behind, opensBlock mark = true ∧ Reaches source (mark :: behind) := by
  have reads := takeEscaped_sound opensBlock source
  cases taken : takeEscaped opensBlock source with
  | mk text rest =>
    rw [taken] at reads
    cases reads with
    | stopped front bare stop => exact ⟨_, _, stop, reaches_literal front _⟩
    | ended front | lone front =>
      rw [lexChars_literal taken] at read
      cases read
      obtain ⟨token, member, other⟩ := block
      simp only [rawToken] at member
      split at member
      · cases member
      · obtain rfl := List.mem_singleton.mp member
        exact absurd rfl other

/-- A fragment of a keyword is written as it is meant, or a backslash stands in it. -/
theorem spells_or_escaped (front : Spells endsKeyword fragment word) (rest : List Char) :
    fragment = word ∨ EscapedKeyword (fragment ++ rest) := by
  induction front with
  | nil => exact .inl rfl
  | @plain c fragment word bare inside front ih =>
    rcases ih with same | escaped
    · exact .inl (congrArg (c :: ·) same)
    · right
      simpa [EscapedKeyword, List.takeWhile_cons, inside] using .inr escaped
  | escaped c front ih =>
    right
    simp [EscapedKeyword, List.takeWhile_cons, endsKeyword]

/-- A keyword that a stop ends, with no backslash in it, stands in front of the stop. -/
theorem reads_plain (keyword : Reads endsKeyword behind word (ending :: rest))
    (plain : ¬ EscapedKeyword behind) :
    behind = word ++ ending :: rest ∧ endsKeyword ending = true := by
  cases keyword with
  | @stopped fragment _ _ _ front bare stop =>
    rcases spells_or_escaped front (ending :: rest) with same | escaped
    · exact ⟨by rw [same], stop⟩
    · exact absurd escaped plain

/-- A branch without an escape in its keyword shows an opening. -/
theorem hasOpening_of_branch (found : lexBranch behind = .ok (token, after))
    (plain : ¬ EscapedKeyword behind) : hasOpening ('[' :: behind) = true := by
  obtain ⟨word, predicate, rest, head⟩ := head_exists behind
  obtain ⟨kind, condition, body, known, -, rfl, -, -⟩ := (lexBranch_iff head).mp found
  have spelled : word = kind.keyword.toList := by
    rw [BranchKind.ofKeyword?_eq_some_iff.mp known, String.toList_ofList]
  subst spelled
  cases head with
  | bare keyword unspaced =>
    obtain ⟨rfl, stop⟩ := reads_plain keyword plain
    exact hasOpening_keyword kind stop _
  | spaced keyword condition =>
    obtain ⟨rfl, stop⟩ := reads_plain keyword plain
    exact hasOpening_keyword kind stop _

/-- In a template, a branch without an escape in its keyword shows an opening. -/
theorem hasOpening_of_reaches (read : lexChars source = .ok tokens)
    (reaches : Reaches source ('[' :: behind)) (plain : ¬ EscapedKeyword behind) :
    hasOpening source = true := by
  have accepted : verdict ('[' :: behind) = .ok () := by
    rw [← reaches_verdict reaches, verdict, read]
    rfl
  rw [verdict, lexChars_bracket] at accepted
  obtain ⟨_, rest, -⟩ := ok_of_map accepted
  obtain ⟨⟨token, after⟩, found, -⟩ := ok_of_bind rest
  obtain ⟨front, rfl⟩ := reaches_suffix reaches
  exact hasOpening_append front (hasOpening_of_branch found plain)

variable {O : Type} [DecidableEq O]

/-- A template with a block shows an opening, so the fast path changes nothing about it. The only
templates that escape the fast path are those in which every block is a branch with an escape in
its keyword. -/
theorem hasOpening_of_block (host : Host O) (config : Config) (read : lex source = .ok tokens)
    (block : ∃ token ∈ tokens, token.instruction ≠ .raw) :
    (hasOpening source.toList = true ∧
      render host { config with fastPath := true } source =
        render host { config with fastPath := false } source) ∨
      OnlyEscapedKeywords source.toList := by
  by_cases opened : hasOpening source.toList = true
  · exact .inl ⟨opened, by simp [render, opened]⟩
  · have none : ∀ behind, ¬ Reaches source.toList ('{' :: behind) := by
      intro behind reaches
      exact opened (hasOpening_of_brace ((reaches_suffix reaches).subset List.mem_cons_self))
    have escaped : ∀ behind, Reaches source.toList ('[' :: behind) → EscapedKeyword behind := by
      intro behind reaches
      by_cases escaped : EscapedKeyword behind
      · exact escaped
      · exact absurd (hasOpening_of_reaches read reaches escaped) opened
    obtain ⟨mark, behind, opens, reaches⟩ := exists_block read block
    have bracket : mark = '[' ∨ mark = '{' := by simpa [opensBlock] using opens
    rcases bracket with rfl | rfl
    · exact .inr ⟨⟨behind, reaches⟩, none, escaped⟩
    · exact absurd reaches (none behind)

/-- An exec block shows its opening, and a keyword with an escape does not. -/
theorem hasOpening_of_block_both :
    (lex "a\x7bb\x7d" = .ok [.raw "a", .exec "b"] ∧ hasOpening "a\x7bb\x7d".toList = true ∧
      render (contextFree noObjects) { fastPath := true } "a\x7bb\x7d" =
        render (contextFree noObjects) { fastPath := false } "a\x7bb\x7d") ∧
    lex "[i\\f 1=1](x)" = .ok [.branch .ifBranch (some "1=1") "x"] ∧
      OnlyEscapedKeywords "[i\\f 1=1](x)".toList := by
  have exec : lex "a\x7bb\x7d" = .ok [.raw "a", .exec "b"] := by
    decide +kernel
  have branch : lex "[i\\f 1=1](x)" = .ok [.branch .ifBranch (some "1=1") "x"] := by
    decide +kernel
  have front : Spells opensBlock ['a'] ['a'] := .plain (by decide) (by decide) .nil
  have brace : Reaches "a\x7bb\x7d".toList ['{', 'b', '}'] := reaches_literal front _
  have shown := hasOpening_of_block (contextFree noObjects) {} exec ⟨.exec "b", by decide⟩
  have hidden := hasOpening_of_block (contextFree noObjects) {} branch ⟨_, List.mem_cons_self, by decide⟩
  refine ⟨⟨exec, ?_⟩, branch, ?_⟩
  · exact shown.resolve_right fun unseen => unseen.none _ brace
  · exact hidden.resolve_left fun seen => absurd seen.1 (by decide)

/-- A branch is read, and the fast path shows it as if it were none. -/
theorem escaped_keyword_unseen :
    lex "[i\\f 1=1](x)" = .ok [.branch .ifBranch (some "1=1") "x"] ∧
      hasOpening "[i\\f 1=1](x)".toList = false ∧
      (render (contextFree noObjects) { fastPath := true } "[i\\f 1=1](x)").outcome =
        .ok "[i\\f 1=1](x)" ∧
      (render (contextFree noObjects) { fastPath := false } "[i\\f 1=1](x)").outcome = .ok "x" := by
  decide +kernel

end ChatTemplate.BlockOpenings
