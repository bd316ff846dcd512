import ChatTemplate.Chat.Message
import ChatTemplate.Proofs.BlockOpenings
import ChatTemplate.Proofs.TokenPrinting

/-! Text that a template is to show as it is. With a backslash before every mark it is literal text
wherever it stands: no part of it opens a block, and in a body it leaves the parentheses of the body
alone. A body keeps its escapes, so the text needs no more of them the deeper it is nested. -/
namespace ChatTemplate.NestedEscapes
open Spelling Scanning TokenPrinting

/-- The characters that mean something in literal text or in a body. -/
def marks : List Char := ['\\', '[', '{', '(', ')']

/-- A branch whose condition holds, up to its body. -/
def opening : List Char := "[if 1=1](".toList

/-- A template inside so many branches whose condition holds. -/
def nest : Nat → List Char → List Char
  | 0, source => source
  | levels + 1, source => opening ++ nest levels source ++ [')']

/-- The template that shows a text from inside so many branches. -/
def nested (levels : Nat) (text : String) : String :=
  String.ofList (nest levels (escape marks text.toList))

/-- What follows a text whose backslashes are all paired is read as if it stood alone. -/
theorem unescaped?_append (clear : unescaped? front = some plain) (rest : List Char) :
    unescaped? (front ++ rest) = (unescaped? rest).map (plain ++ ·) := by
  fun_induction unescaped? front generalizing plain with
  | case1 =>
    cases clear
    simp
  | case2 => cases clear
  | case3 c front ih => exact ih clear
  | case4 c front lone pair ih =>
    obtain ⟨inner, found, rfl⟩ := Option.map_eq_some_iff.mp clear
    rw [List.cons_append, unescaped?_plain (bare_of_unmatched lone pair), ih found, Option.map_map]
    rfl

/-- No parenthesis of an escaped text counts. -/
theorem closed_escape (text : List Char) : Closed (escape marks text) := by
  induction text with
  | nil => exact ⟨[], rfl, balanced_nil.mpr rfl⟩
  | cons c rest ih =>
    by_cases mark : c ∈ marks
    · simpa [escape, mark, Closed, unescaped?] using ih
    · obtain ⟨plain, clear, balanced⟩ := ih
      have other : c ≠ '\\' ∧ c ≠ '(' ∧ c ≠ ')' := by
        refine ⟨?_, ?_, ?_⟩ <;> rintro rfl <;> exact mark (by decide)
      refine ⟨c :: plain, ?_, (balanced_other other.2.1 other.2.2).mpr balanced⟩
      have split : escape marks (c :: rest) = c :: escape marks rest := by simp [escape, mark]
      rw [split, unescaped?_plain other.1, clear]
      rfl

/-- One parenthesis more closes one level more. -/
theorem balanced_closing (balanced : Balanced depth text) : Balanced (depth + 1) (text ++ [')']) := by
  have even := balanced.even
  have shift : (text ++ [')']).count ')' = text.count ')' + 1 ∧
      (text ++ [')']).count '(' = text.count '(' := by simp
  refine ⟨fun front within => ?_, by omega⟩
  rcases List.prefix_concat_iff.mp within with rfl | inside
  · omega
  · have := balanced.covered front inside
    omega

/-- Branches around a body can stand in a body again. -/
theorem closed_nest (closed : Closed source) (levels : Nat) : Closed (nest levels source) := by
  induction levels with
  | zero => exact closed
  | succ levels ih =>
    obtain ⟨plain, clear, balanced⟩ := ih
    -- the one parenthesis that the head leaves open is the one behind the body
    have spelled : opening = ['[', 'i', 'f', ' ', '1', '=', '1', ']', '('] := rfl
    have bare : unescaped? opening = some opening := rfl
    refine ⟨opening ++ (plain ++ [')']), ?_, ?_⟩
    · rw [nest, List.append_assoc, unescaped?_append bare, unescaped?_append clear]
      rfl
    · rw [spelled]
      simpa [balanced_other, balanced_open] using balanced_closing balanced

/-- The tokens of a text inside so many branches. -/
def layers (text : String) : Nat → List Token
  | 0 => rawToken text.toList
  | levels + 1 => [.branch .ifBranch (some "1=1") (nested levels text)]

theorem lex_nested (levels : Nat) (text : String) :
    lex (nested levels text) = .ok (layers text levels) := by
  rw [lex, nested, String.toList_ofList]
  cases levels with
  | zero =>
    have spelled : Spells opensBlock (escape marks text.toList) text.toList :=
      spells_escape (by decide) (by simp [opensBlock, marks]) _
    exact lexChars_literal (takeEscaped_complete (.ended spelled))
  | succ levels =>
    have shown : Text.trimmed "1=1" ≠ "" := by decide
    have ready : Ready (.branch .ifBranch (some "1=1") (nested levels text)) := by
      refine ⟨⟨_, rfl, shown⟩, ?_⟩
      rw [nested, String.toList_ofList]
      exact closed_nest (closed_escape _) levels
    have wellFormed : WellFormed (layers text (levels + 1)) :=
      ⟨fun token member => List.mem_singleton.mp member ▸ ready, .singleton _⟩
    have spelled : (layers text (levels + 1)).flatMap written =
        nest (levels + 1) (escape marks text.toList) := by
      rw [layers, List.flatMap_singleton, written, nested, String.toList_ofList]
      rfl
    rw [← spelled]
    exact lexChars_written wellFormed

variable {O : Type} [DecidableEq O] {host : Host O}

/-- The condition holds: its numeral has a value that equals itself. -/
def Affirms (host : Host O) : Prop :=
  ∃ value, host.resolve? "1" = some value ∧ value.looselyEquals value = true

theorem affirms_contextFree (objects : Objects O) : Affirms (contextFree objects) :=
  ⟨.str "1", rfl, by simp [Value.looselyEquals, Value.number?, Value.sameAs]⟩

theorem affirms_message (message : Chat.Message) (accepts : String → Bool) :
    Affirms (message.host accepts) :=
  ⟨.float 1, rfl, by decide⟩

/-- The calls of so many conditions. Each looks up its numeral on either side. -/
def conditions (levels : Nat) : List Call := List.replicate (2 * levels) (.resolve "1")

theorem predicateHolds_affirms (affirms : Affirms host) :
    predicateHolds host "1=1" = ⟨conditions 1, .ok true⟩ := by
  obtain ⟨value, one, same⟩ := affirms
  have spelled : Expression.words "1=1" = ["1", "=", "1"] := by
    decide +kernel
  have numeral : Operator.ofSymbol? "1" = none := by decide
  have evaluated := Expression.evaluate_binary host .equal numeral numeral
  have compared : Binary.equal.apply host.toObjects value value = .ok (.ofBool true) := by
    rw [Binary.apply, same]
  simp only [one, Option.getD_some, compared] at evaluated
  rw [predicateHolds, spelled, show "=" = Binary.equal.symbol from rfl, evaluated]
  rfl

/-- Literal text alone is shown as it stands and asks nothing. -/
theorem renderTokens_rawToken (body : String → Traced String) (text : String) :
    renderTokens host body false (rawToken text.toList) = pure text := by
  unfold rawToken
  split
  · next empty =>
    have none : text = "" := by simpa using empty
    rw [none]
    rfl
  · rw [String.ofList_toList]
    simp [renderTokens]

/-- A branch whose condition holds shows its body and asks what its condition and its body ask. -/
theorem renderTokens_affirmed (affirms : Affirms host) {body : String → Traced String}
    (shown : body source = ⟨calls, .ok text⟩) :
    renderTokens host body false [.branch .ifBranch (some "1=1") source] =
      ⟨conditions 1 ++ calls, .ok text⟩ := by
  have selected : selectBranch host false .ifBranch (some "1=1") =
      ⟨conditions 1, .ok .selected⟩ := by
    rw [selectBranch, Option.getD_some, predicateHolds_affirms affirms]
    rfl
  rw [renderTokens, selected, Trace.bind_ok _ rfl]
  simp only [shown]
  rw [Trace.bind_ok _ rfl]
  simp [renderTokens]

theorem renderTokens_layers (affirms : Affirms host) (limit : Nat) (text : String)
    (within : levels ≤ depth) :
    renderTokens host (renderBody host limit depth) false (layers text levels) =
      ⟨conditions levels, .ok text⟩ := by
  induction levels generalizing depth with
  | zero => exact renderTokens_rawToken _ text
  | succ levels ih =>
    -- each branch around the text takes up one level of the limit
    obtain ⟨inner, rfl⟩ : ∃ inner, depth = inner + 1 := ⟨depth - 1, by omega⟩
    have body : renderBody host limit (inner + 1) (nested levels text) =
        ⟨conditions levels, .ok text⟩ := by
      rw [renderBody, lex_nested]
      exact ih (by omega)
    have calls : conditions 1 ++ conditions levels = conditions (levels + 1) := by
      rw [conditions, conditions, List.replicate_append_replicate, conditions]
      congr 1
      omega
    rw [layers, renderTokens_affirmed affirms body, calls]

/-- A template in which a branch opens takes the full way. -/
theorem render_full (opened : config.fastPath = false ∨ 1 ≤ levels) :
    render host config (nested levels text) =
      renderFully host config.maxDepth (nested levels text) := by
  rcases opened with slow | wrapped
  · simp [render, slow]
  · obtain ⟨inner, rfl⟩ : ∃ inner, levels = inner + 1 := ⟨levels - 1, by omega⟩
    have opening : hasOpening (nested (inner + 1) text).toList = true := by
      rw [nested, String.toList_ofList]
      exact BlockOpenings.hasOpening_keyword .ifBranch (by decide) _
    simp [render, opening]

theorem render_affirmed (affirms : Affirms host) (config : Config) (levels : Nat) (text : String)
    (within : levels ≤ config.maxDepth) (opened : config.fastPath = false ∨ 1 ≤ levels) :
    render host config (nested levels text) = ⟨conditions levels, .ok text⟩ := by
  rw [render_full opened, renderFully, lex_nested]
  exact renderTokens_layers affirms config.maxDepth text within

/-- Escaped text is shown as it is from inside any number of branches within the limit, without
context and in a chat alike. The only calls are those of the conditions around it: no part of the
text is looked up, and no command is tried. -/
theorem render_nested (objects : Objects O) (message : Chat.Message) (accepts : String → Bool)
    (config : Config) (levels : Nat) (text : String) (within : levels ≤ config.maxDepth)
    (opened : config.fastPath = false ∨ 1 ≤ levels) :
    render (contextFree objects) config (nested levels text) = ⟨conditions levels, .ok text⟩ ∧
      render (message.host accepts) config (nested levels text) = ⟨conditions levels, .ok text⟩ :=
  ⟨render_affirmed (affirms_contextFree objects) config levels text within opened,
    render_affirmed (affirms_message message accepts) config levels text within opened⟩

/-- A branch and an exec block as text, from inside as many branches as the limit allows. -/
theorem render_nested_blocks :
    let host := Chat.Message.standard.host fun _ => true
    nested 2 "[if 1](\\)\x7ba\x7d" =
        "[if 1=1]([if 1=1](\\[if 1]\\(\\\\\\)\\\x7ba\x7d))" ∧
      render host { maxDepth := 2 } (nested 2 "[if 1](\\)\x7ba\x7d") =
        ⟨List.replicate 4 (.resolve "1"), .ok "[if 1](\\)\x7ba\x7d"⟩ :=
  ⟨by decide, (render_nested noObjects .standard _ { maxDepth := 2 } 2 _ (by decide)
    (.inr (by decide))).2⟩

end ChatTemplate.NestedEscapes
