import Mathlib.Data.List.Infix
import ChatTemplate.Proofs.BlockOpenings
import ChatTemplate.Proofs.TokenPrinting

/-! Templates one after the other. A template is finished if nothing that follows it can become part
of its last item: no backslash waits for a character, and no exec block for its brace. Reading a
finished template and any text behind it gives the tokens of both, except that literal texts which
meet become one. Showing them shows the one and then the other, unless the second goes on with the
chain of branches that the first ends with. -/
namespace ChatTemplate.Concatenation
open Spelling Scanning DocumentGrammar BlockOpenings TokenPrinting

/-- A template that ends neither in a backslash without a character to escape nor inside an exec
block. -/
structure Finished (source : String) : Prop where
  accepted : ∃ tokens, lex source = .ok tokens
  paired : ¬ Reaches source.toList ['\\']
  closed : ∀ behind text, Reaches source.toList ('{' :: behind) → ¬ Reads (· = '}') behind text []

/-- The tokens of two lists in their order. A literal text at the end of the first and one at the
start of the second are one literal text. -/
def join : List Token → List Token → List Token
  | [], second => second
  | [.raw text], .raw more :: rest => .raw (text ++ more) :: rest
  | token :: rest, second => token :: join rest second

/-- Behind a block nothing becomes one. -/
theorem join_block (block : isRaw token = false) : join [token] = (token :: ·) := by
  funext second
  cases token with
  | raw text => cases block
  | branch | exec => simp [join]

/-- In front of a block nothing becomes one. -/
theorem join_blocks (first : List Token) (blocks : ∀ next ∈ second.head?, isRaw next = false) :
    join first second = first ++ second := by
  fun_induction join first second with
  | case1 => rfl
  | case2 => cases blocks _ rfl
  | case3 token rest second _ ih => rw [ih blocks, List.cons_append]

theorem join_nil (first : List Token) : join first [] = first := by
  rw [join_blocks first (by simp), List.append_nil]

/-- A character in front of literal text belongs to it. -/
theorem join_rawToken (c : Char) (more : List Char)
    (blocks : ∀ next ∈ tokens.head?, isRaw next = false) :
    join (rawToken [c]) (rawToken more ++ tokens) = rawToken (c :: more) ++ tokens := by
  cases more with
  | nil => exact join_blocks (rawToken [c]) blocks
  | cons d more => simp [rawToken, join]

/-- It does not matter which seam is closed first. -/
theorem join_token (token : Token) (middle last : List Token) :
    join [token] (join middle last) = join (join [token] middle) last := by
  cases token with
  | branch kind predicate body => simp [join]
  | exec text => simp [join]
  | raw text =>
    rcases middle with _ | ⟨next, _ | ⟨third, middle⟩⟩
    · simp [join]
    · cases next with
      | branch kind predicate body => simp [join]
      | exec more => simp [join]
      | raw more =>
        rcases last with _ | ⟨_ | _ | _, last⟩ <;> simp [join, String.append_assoc]
    · cases next <;> simp [join]

/-- A stop is found whatever stands behind it. -/
theorem reads_append (reads : Reads stops source text (c :: rest)) (behind : List Char) :
    Reads stops (source ++ behind) text (c :: (rest ++ behind)) := by
  cases reads with
  | stopped front bare stop =>
    rw [List.append_assoc, List.cons_append]
    exact .stopped front bare stop

/-- The head of a branch ends where its body is to begin, so nothing behind it matters. -/
theorem head_append (head : Head source word predicate (c :: rest)) (behind : List Char) :
    Head (source ++ behind) word predicate (c :: (rest ++ behind)) := by
  cases head with
  | bare keyword unspaced => exact .bare (reads_append keyword behind) unspaced
  | spaced keyword condition =>
    exact .spaced (reads_append keyword behind) (reads_append condition behind)

/-- A branch is read the same whatever stands behind it. -/
theorem lexBranch_append (found : lexBranch source = .ok (token, after)) (behind : List Char) :
    lexBranch (source ++ behind) = .ok (token, after ++ behind) := by
  obtain ⟨word, predicate, rest, head⟩ := head_exists source
  obtain ⟨kind, condition, body, known, checked, rfl, closed, rfl⟩ := (lexBranch_iff head).mp found
  exact (lexBranch_iff (head_append head behind)).mpr
    ⟨kind, condition, body, known, checked, by simp, closed, rfl⟩

private theorem isRaw_branch (found : lexBranch source = .ok (token, after)) :
    isRaw token = false := by
  obtain ⟨kind, condition, body, rfl, -⟩ := lexBranch_sublist found
  rfl

/-- A character of literal text joins what is read behind it. -/
theorem lexChars_char
    (taken : takeEscaped opensBlock source =
      (c :: (takeEscaped opensBlock after).1, (takeEscaped opensBlock after).2)) :
    lexChars source = (lexChars after).map (join (rawToken [c])) := by
  have reads := takeEscaped_sound opensBlock after
  cases behind : takeEscaped opensBlock after with
  | mk literal rest =>
    rw [behind] at taken reads
    cases reads with
    | ended | lone =>
      rw [lexChars_literal taken, lexChars_literal behind]
      have joined : join (rawToken [c]) (rawToken literal ++ []) = rawToken (c :: literal) ++ [] :=
        join_rawToken c literal nofun
      rw [List.append_nil, List.append_nil] at joined
      exact congrArg Except.ok joined.symm
    | @stopped _ _ mark rest _ _ stop =>
      have opens : mark = '[' ∨ mark = '{' := by simpa [opensBlock] using stop
      have joined {block : Token} (other : isRaw block = false) (tokens : List Token) :
          rawToken (c :: literal) ++ block :: tokens =
            join (rawToken [c]) (rawToken literal ++ block :: tokens) :=
        (join_rawToken c literal (by simpa using other)).symm
      rcases opens with rfl | rfl
      · rw [lexChars_branch taken, lexChars_branch behind]
        cases found : lexBranch rest with
        | error fault => rfl
        | ok read =>
          simp only [bind, Except.bind]
          cases lexChars read.2 with
          | error fault => rfl
          | ok tokens => exact congrArg Except.ok (joined (isRaw_branch found) tokens)
      · rw [lexChars_exec taken, lexChars_exec behind]
        cases lexChars (takeExec rest).2 with
        | error fault => rfl
        | ok tokens => exact congrArg Except.ok (joined rfl tokens)

/-- An item joins what is read behind it, unless it is one that the end of the text has cut off. -/
theorem lexChars_item (item : Item source after) (paired : source ≠ ['\\'])
    (closed : ∀ behind text, source = '{' :: behind → ¬ Reads (· = '}') behind text []) :
    ∃ token, ∀ behind,
      lexChars (source ++ behind) = (lexChars (after ++ behind)).map (join [token]) := by
  cases item with
  | @plain c _ bare =>
    have inside : opensBlock c = false := by simp [opensBlock, bare]
    exact ⟨_, fun behind => lexChars_char (takeEscaped_plain bare.1 inside _)⟩
  | escaped c => exact ⟨_, fun behind => lexChars_char rfl⟩
  | lone => exact absurd rfl paired
  | @exec fragment text after inside =>
    refine ⟨.exec (String.ofList text), fun behind => ?_⟩
    rw [List.cons_append, List.append_assoc, List.cons_append, lexChars_brace,
      takeExec_closed inside, join_block rfl]
  | unclosed inside => exact absurd inside (closed _ _ rfl)
  | branch branch =>
    obtain ⟨token, found⟩ := lexBranch_branch branch
    refine ⟨token, fun behind => ?_⟩
    rw [List.cons_append, lexChars_bracket, lexBranch_append found, join_block (isRaw_branch found)]
    rfl

/-- The tokens of a finished template join the tokens of any text behind it. -/
theorem lexChars_finished (document : Document source) (paired : ¬ Reaches source ['\\'])
    (closed : ∀ behind text, Reaches source ('{' :: behind) → ¬ Reads (· = '}') behind text []) :
    ∃ tokens, ∀ behind, lexChars (source ++ behind) = (lexChars behind).map (join tokens) := by
  induction document with
  | nil =>
    refine ⟨[], fun behind => ?_⟩
    rw [List.nil_append]
    cases lexChars behind <;> rfl
  | @item source after first rest ih =>
    obtain ⟨token, read⟩ := lexChars_item first (fun same => paired (same ▸ .refl))
      (fun behind text same => closed behind text (same ▸ .refl))
    obtain ⟨tokens, later⟩ := ih (fun reaches => paired (.item first reaches))
      (fun behind text reaches => closed behind text (.item first reaches))
    refine ⟨join [token] tokens, fun behind => ?_⟩
    rw [read, later]
    cases lexChars behind with
    | error fault => rfl
    | ok found => exact congrArg Except.ok (join_token token tokens found)

/-! ### Showing -/

/-- Starts with none of the branches that go on with a chain. -/
def Fresh (tokens : List Token) : Prop :=
  ∀ token ∈ tokens.head?, token.instruction ≠ .elifBranch ∧ token.instruction ≠ .elseBranch

variable {O : Type} [DecidableEq O] {host : Host O} {body : String → Traced String}

/-- Where no chain goes on it does not matter whether there is one. -/
theorem renderTokens_fresh (fresh : Fresh tokens) (armed : Bool) :
    renderTokens host body armed tokens = renderTokens host body false tokens := by
  cases tokens with
  | nil => rfl
  | cons token rest =>
    have first := fresh token rfl
    cases token with
    | raw text => rfl
    | exec text => rfl
    | branch kind predicate source =>
      cases kind with
      | ifBranch => simp only [renderTokens, selectBranch]
      | elifBranch => exact absurd rfl first.1
      | elseBranch => exact absurd rfl first.2

/-- What is shown of joined tokens is what is shown of the first and then of the second. -/
theorem renderTokens_join (first : List Token) (fresh : Fresh second) (armed : Bool) :
    renderTokens host body armed (join first second) = do
      let shown ← renderTokens host body armed first
      let more ← renderTokens host body false second
      return shown ++ more := by
  fun_induction join first second generalizing armed with
  | case1 second =>
    simp only [renderTokens, renderTokens_fresh fresh, pure_bind, String.empty_append, bind_pure]
  | case2 text more rest =>
    simp only [renderTokens, bind_assoc, pure_bind, String.append_empty, String.append_assoc]
  | case3 token rest second _ ih =>
    -- Whatever the first token shows stands in front of what the others show.
    have later (armed : Bool) := ih fresh armed
    cases token with
    | raw text | exec text =>
      simp only [renderTokens, later, bind_assoc, pure_bind, String.append_assoc]
    | branch kind predicate source =>
      simp only [renderTokens, bind_assoc]
      refine bind_congr fun selection => ?_
      cases selection with
      | selected => simp only [later, bind_assoc, pure_bind, String.append_assoc]
      | refused | passed => exact later _

/-- Reading a finished template and a text behind it gives the tokens of the template joined with
those of the text, or the fault of the text. Unless the text goes on with a chain, the tokens show what
those of the template show and then what those of the text show, up to the first fault, and ask
the host the questions of the one and then of the other. -/
theorem lex_append (finished : Finished first) (second : String) :
    ∃ tokens, lex first = .ok tokens ∧ lex (first ++ second) = (lex second).map (join tokens) ∧
      ∀ next, lex second = .ok next → Fresh next → ∀ (host : Host O) (limit : Nat),
        interpret host limit (join tokens next) = do
          let shown ← interpret host limit tokens
          let more ← interpret host limit next
          return shown ++ more := by
  obtain ⟨own, accepted⟩ := finished.accepted
  have document : Document first.toList := by
    rw [← verdict_ok_iff, verdict, show lexChars first.toList = .ok own from accepted]
    rfl
  obtain ⟨tokens, read⟩ := lexChars_finished document finished.paired finished.closed
  have alone : lex first = .ok tokens := by
    have empty : takeEscaped opensBlock [] = ([], []) := rfl
    rw [lex, ← List.append_nil first.toList, read, lexChars_literal empty]
    exact congrArg Except.ok (join_nil tokens)
  refine ⟨tokens, alone, ?_, fun next _ fresh host limit => renderTokens_join tokens fresh false⟩
  rw [lex, lex, String.toList_append]
  exact read second.toList

/-- Literal text ends the first template and starts the second, which holds a branch without an `if`.
The exec block of the first is closed, and that of the second is not. -/
theorem lex_append_seam :
    Finished "[if a](b)\x7bc\x7d\\[d" ∧
      lex ("[if a](b)\x7bc\x7d\\[d" ++ "e[elif f](g)\x7bh") =
        .ok [.branch .ifBranch (some "a") "b", .exec "c", .raw "[de",
          .branch .elifBranch (some "f") "g", .exec "h"] ∧
      interpret (contextFree noObjects) 1 [.branch .ifBranch (some "a") "b", .exec "c", .raw "[de",
          .branch .elifBranch (some "f") "g", .exec "h"] =
        ⟨["a", "c", "h"].map .resolve, .ok "bc[deh"⟩ := by
  have read : lex "[if a](b)\x7bc\x7d\\[d" =
      .ok [.branch .ifBranch (some "a") "b", .exec "c", .raw "[d"] := by decide +kernel
  have next : lex "e[elif f](g)\x7bh" =
      .ok [.raw "e", .branch .elifBranch (some "f") "g", .exec "h"] := by decide +kernel
  have finished : Finished "[if a](b)\x7bc\x7d\\[d" := by
    refine ⟨⟨_, read⟩, fun reaches => ?_, fun behind text reaches reads => ?_⟩
    · exact absurd (reaches_suffix reaches) (by decide)
    · have closes : ∀ place ∈ "[if a](b)\x7bc\x7d\\[d".toList.tails, place.head? = some '{' →
          (takeEscaped (· = '}') place.tail).2 ≠ [] := by decide
      have place := (List.mem_tails _ _).mpr (reaches_suffix reaches)
      exact closes _ place rfl (by rw [List.tail_cons, takeEscaped_complete reads])
  obtain ⟨tokens, first, joined, shown⟩ := @lex_append Empty _ _ finished "e[elif f](g)\x7bh"
  obtain rfl := Except.ok.inj (read.symm.trans first)
  rw [next] at joined
  have fresh : Fresh [.raw "e", .branch .elifBranch (some "f") "g", .exec "h"] := by
    simp [Fresh, Token.instruction]
  refine ⟨finished, joined, (shown _ next fresh (contextFree noObjects) 1).trans ?_⟩
  exact Trace.ext (by decide +kernel) (by decide +kernel)

end ChatTemplate.Concatenation
