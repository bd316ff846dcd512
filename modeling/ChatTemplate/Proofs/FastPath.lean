import ChatTemplate.Proofs.BlockOpenings

/-! When the fast path and the full rendering show the same. Without an opening the fast path shows a
text as it stands. The full rendering then only leaves characters out: it drops the backslash of
every escape and the whole head of every branch, whatever the host says. So the two agree exactly
where there is an opening or nothing to leave out. -/
namespace ChatTemplate.FastPath
open Spelling Scanning BlockOpenings

/-- What is shown of a source: some of its characters in their order, and all of them only where the
source holds neither an escape nor a bracket. -/
structure LeavesOut (shown source : List Char) : Prop where
  sublist : shown.Sublist source
  whole : shown = source → '\\' ∉ source ∧ '[' ∉ source

/-- Literal text up to the end of the source. -/
theorem reads_leavesOut (reads : Reads opensBlock source text []) : LeavesOut text source := by
  cases reads with
  | ended front =>
    refine ⟨spells_sublist front, fun same => ⟨fun slash => ?_, fun bracket => ?_⟩⟩
    · exact (spells_whole front same _ slash).1 rfl
    · exact absurd (spells_whole front same _ bracket).2 (by decide)
  | lone front =>
    have shorter := (spells_sublist front).length_le
    refine ⟨(spells_sublist front).trans (List.sublist_append_left _ _), fun same => ?_⟩
    have lengths := congrArg List.length same
    simp only [List.length_append, List.length_singleton] at lengths
    omega

/-- A branch behind literal text loses its bracket at least. -/
theorem branch_leavesOut (front : Spells opensBlock fragment text)
    (within : shown.Sublist rest) : LeavesOut (text ++ shown) (fragment ++ '[' :: rest) := by
  refine ⟨(spells_sublist front).append (within.cons '['), fun same => ?_⟩
  have literal := (spells_sublist front).length_le
  have inner := within.length_le
  have lengths := congrArg List.length same
  simp only [List.length_append, List.length_cons] at lengths
  omega

variable {O : Type} [DecidableEq O] {host : Host O} {body : String → Traced String}

/-- Literal text in front is shown in front. -/
theorem renderTokens_literal (literal : List Char)
    (ended : (renderTokens host body armed (rawToken literal ++ tokens)).outcome = .ok shown) :
    ∃ next behind, (renderTokens host body next tokens).outcome = .ok behind ∧
      shown.toList = literal ++ behind.toList := by
  unfold rawToken at ended
  split at ended
  · next empty => exact ⟨armed, shown, ended, by simp [List.isEmpty_iff.mp empty]⟩
  · obtain ⟨behind, rest, joined⟩ := Trace.ok_of_bind ended
    cases joined
    exact ⟨false, behind, rest, by simp⟩

/-- A branch shows its body or nothing. -/
theorem renderTokens_branch
    (ended : (renderTokens host body armed (.branch kind predicate source :: tokens)).outcome =
      .ok shown) :
    ∃ next inner behind, (inner = "" ∨ (body source).outcome = .ok inner) ∧
      (renderTokens host body next tokens).outcome = .ok behind ∧ shown = inner ++ behind := by
  obtain ⟨selection, -, ended⟩ := Trace.ok_of_bind ended
  cases selection with
  | selected =>
    obtain ⟨inner, rendered, ended⟩ := Trace.ok_of_bind ended
    obtain ⟨behind, rest, joined⟩ := Trace.ok_of_bind ended
    cases joined
    exact ⟨false, inner, behind, .inr rendered, rest, rfl⟩
  | refused => exact ⟨true, "", shown, .inl rfl, ended, by simp⟩
  | passed => exact ⟨false, "", shown, .inl rfl, ended, by simp⟩

/-- Without exec blocks a template shows only characters of its own, provided that its bodies do. -/
theorem renderTokens_leavesOut
    (bodies : ∀ source shown, '{' ∉ source.toList → (body source).outcome = .ok shown →
      shown.toList.Sublist source.toList)
    (clear : '{' ∉ source) (read : lexChars source = .ok tokens)
    (ended : (renderTokens host body armed tokens).outcome = .ok shown) :
    LeavesOut shown.toList source := by
  induction source using template_induction generalizing tokens armed shown with
  | literal source text taken =>
    rw [lexChars_literal taken] at read
    cases read
    rw [← List.append_nil (rawToken text)] at ended
    obtain ⟨next, behind, rest, joined⟩ := renderTokens_literal text ended
    cases rest
    rw [joined, String.toList_empty, List.append_nil]
    exact reads_leavesOut (takeEscaped_iff.mp taken)
  | branch source text rest taken ih =>
    have front := takeEscaped_iff.mp taken
    have behindBracket : '{' ∉ rest := fun brace =>
      clear ((reads_suffix front).subset (List.mem_cons_of_mem _ brace))
    rw [lexChars_branch taken] at read
    obtain ⟨⟨token, after⟩, found, read⟩ := ok_of_bind read
    obtain ⟨later, next, rfl⟩ := ok_of_map read
    obtain ⟨kind, condition, inside, rfl, parts⟩ := lexBranch_sublist found
    obtain ⟨_, blocks, fromBranch, joined⟩ := renderTokens_literal text ended
    obtain ⟨_, inner, behind, selected, fromAfter, rfl⟩ := renderTokens_branch fromBranch
    have innerClear : '{' ∉ inside.toList := fun brace =>
      behindBracket (parts.subset (List.mem_append_left _ brace))
    have afterClear : '{' ∉ after := fun brace =>
      behindBracket (parts.subset (List.mem_append_right _ brace))
    have shownInside : inner.toList.Sublist inside.toList := by
      rcases selected with rfl | rendered
      · exact List.nil_sublist _
      · exact bodies inside inner innerClear rendered
    have shownAfter := (ih _ after found afterClear next fromAfter).sublist
    rw [joined, String.toList_append]
    cases front with
    | stopped front bare stop =>
      exact branch_leavesOut front ((shownInside.append shownAfter).trans parts)
  | exec source text rest taken ih =>
    have braced := (reads_suffix (takeEscaped_iff.mp taken)).subset List.mem_cons_self
    exact absurd braced clear

theorem renderBody_sublist (host : Host O) (limit levels : Nat) (source shown : String)
    (clear : '{' ∉ source.toList) (ended : (renderBody host limit levels source).outcome = .ok shown) :
    shown.toList.Sublist source.toList := by
  induction levels generalizing source shown with
  | zero => cases ended
  | succ levels ih =>
    obtain ⟨tokens, read, ended⟩ := Trace.ok_of_bind ended
    exact (renderTokens_leavesOut ih clear read ended).sublist

/-- The full rendering of a text without exec blocks only leaves characters out. -/
theorem renderFully_leavesOut (host : Host O) (limit : Nat) (clear : '{' ∉ source.toList)
    (ended : (renderFully host limit source).outcome = .ok shown) :
    LeavesOut shown.toList source.toList := by
  obtain ⟨tokens, read, ended⟩ := Trace.ok_of_bind ended
  exact renderTokens_leavesOut (renderBody_sublist host limit limit) clear read ended

/-- The full rendering shows a text as it stands where no mark is in it. -/
theorem renderFully_plain (host : Host O) (limit : Nat) (slash : '\\' ∉ source.toList)
    (bracket : '[' ∉ source.toList) (brace : '{' ∉ source.toList) :
    renderFully host limit source = pure source := by
  have itself : ∀ c ∈ source.toList, c ≠ '\\' ∧ opensBlock c = false := by
    intro c member
    refine ⟨fun same => slash (same ▸ member), ?_⟩
    have other : c ≠ '[' ∧ c ≠ '{' := ⟨fun same => bracket (same ▸ member), fun same => brace (same ▸ member)⟩
    simp [opensBlock, other]
  have read := lexChars_literal (takeEscaped_complete (.ended (spells_self itself)))
  simp only [renderFully, lex, read, Traced.ofExcept_ok, pure_bind, interpret, rawToken]
  split
  · next empty =>
    have blank : source = "" := by simpa using empty
    rw [blank]
    rfl
  · simp [renderTokens]

private theorem not_brace (closed : hasOpening text = false) : '{' ∉ text := by
  intro brace
  rw [hasOpening_of_brace brace] at closed
  cases closed

/-- Where no block opens but a mark is in the text, the full rendering fails or loses characters. -/
theorem renderFully_shorter (host : Host O) (limit : Nat) (closed : hasOpening source.toList = false)
    (marked : '\\' ∈ source.toList ∨ '[' ∈ source.toList) :
    (∃ fault, (renderFully host limit source).outcome = .error fault) ∨
      ∃ shown, (renderFully host limit source).outcome = .ok shown ∧
        shown.toList.Sublist source.toList ∧ shown.length < source.length := by
  cases ended : (renderFully host limit source).outcome with
  | error fault => exact .inl ⟨fault, rfl⟩
  | ok shown =>
    have leaves := renderFully_leavesOut host limit (not_brace closed) ended
    refine .inr ⟨shown, rfl, leaves.sublist, ?_⟩
    have atMost := leaves.sublist.length_le
    have other : shown.toList.length ≠ source.toList.length := by
      intro lengths
      obtain ⟨slash, bracket⟩ := leaves.whole (leaves.sublist.eq_of_length lengths)
      exact marked.elim slash bracket
    rw [String.length_toList, String.length_toList] at atMost other
    omega

/-- The two ways to render agree exactly where a block opens or the text has neither a backslash nor
a bracket. Everywhere else the full rendering fails or shows a shorter text, some characters of the
source in their order. -/
theorem fastPath_agrees_iff (host : Host O) (config : Config) (source : String) :
    ((render host { config with fastPath := true } source).outcome =
        (render host { config with fastPath := false } source).outcome ↔
      hasOpening source.toList = true ∨ ('\\' ∉ source.toList ∧ '[' ∉ source.toList)) ∧
    (hasOpening source.toList = false → '\\' ∈ source.toList ∨ '[' ∈ source.toList →
      (∃ fault, (render host { config with fastPath := false } source).outcome = .error fault) ∨
      ∃ shown, (render host { config with fastPath := false } source).outcome = .ok shown ∧
        shown.toList.Sublist source.toList ∧ shown.length < source.length) := by
  have full : render host { config with fastPath := false } source =
      renderFully host config.maxDepth source := by simp [render]
  rw [full]
  cases opened : hasOpening source.toList with
  | true =>
    have fast : render host { config with fastPath := true } source =
        renderFully host config.maxDepth source := by simp [render, opened]
    simp [fast]
  | false =>
    have fast : render host { config with fastPath := true } source = pure source := by
      simp [render, opened]
    have shorter := renderFully_shorter host config.maxDepth opened
    refine ⟨?_, fun _ => shorter⟩
    rw [fast]
    constructor
    · intro same
      have unmarked : ¬ ('\\' ∈ source.toList ∨ '[' ∈ source.toList) := by
        intro marked
        rcases shorter marked with ⟨fault, failed⟩ | ⟨shown, ended, -, fewer⟩
        · rw [← same] at failed
          cases failed
        · rw [← same] at ended
          cases ended
          exact Nat.lt_irrefl _ fewer
      exact .inr (not_or.mp unmarked)
    · rintro (absent | ⟨slash, bracket⟩)
      · cases absent
      · rw [renderFully_plain host config.maxDepth slash bracket (not_brace opened)]

/-- An escaped bracket keeps its backslash on the fast path alone. -/
theorem fastPath_agrees_iff_escaped_bracket :
    (render (contextFree noObjects) { fastPath := true } "see \\[1]").outcome ≠
      (render (contextFree noObjects) { fastPath := false } "see \\[1]").outcome := by
  intro same
  have either := (fastPath_agrees_iff (contextFree noObjects) {} "see \\[1]").1.mp same
  revert either
  decide

end ChatTemplate.FastPath
