import Mathlib.Data.List.TakeWhile
import ChatTemplate.Proofs.Spelling
import ChatTemplate.Proofs.WordPrinting

/-! What becomes of the text of an expression when it is cut into words. Its pieces are the whole text
one after the other. A piece is a blank, a backslash or what a word is made from, and the word is the
piece with fewer backslashes. So only blanks and backslashes are lost, and of a text without
backslashes only the blanks around and between its words. -/
namespace ChatTemplate.WordConservation
open Expression WordPrinting Trimming

/-- The sorts of pieces, and of words: a run of word characters, a single other character, or a text
between two equal marks. -/
inductive Formed : List Char → Prop where
  | bare (run : ∀ c ∈ text, Text.isWordChar c = true) (filled : text ≠ []) : Formed text
  | mark (other : Text.isWordChar c = false) : Formed [c]
  | quoted (marked : isQuote quote = true) (text : List Char) : Formed (quote :: (text ++ [quote]))

/-- A word has no blank at its ends. -/
structure Word (text : List Char) : Prop where
  filled : text ≠ []
  formed : Formed text
  front : ∀ c ∈ text.head?, Text.isBlank c = false
  back : ∀ c ∈ text.getLast?, Text.isBlank c = false

/-- A text without its blanks and backslashes. -/
def residue (text : List Char) : List Char := text.filter fun c => !Text.isBlank c && c != '\\'

/-- A text of words in their order, with blanks around and between them. -/
inductive Spaced : List Char → List (List Char) → Prop where
  | blank (gap : Blank text) : Spaced text []
  | word (gap : Blank before) (word : List Char) (rest : Spaced behind more) :
      Spaced (before ++ word ++ behind) (word :: more)

theorem closing?_eq_some (closed : closing? quote text = some (run, after)) :
    text = run ++ quote :: after := by
  have whole := List.takeWhile_append_dropWhile (p := (· = '\\')) (l := text)
  simp only [closing?] at closed
  split at closed
  · cases closed
  · next c rest opened =>
    split at closed
    · next ends =>
      cases closed
      rw [opened, ends.1] at whole
      exact whole.symm
    · cases closed

theorem inside?_eq_some (found : inside? quote text = some (inside, after)) :
    text = inside ++ quote :: after := by
  induction text generalizing inside with
  | nil => cases found
  | cons c rest ih =>
    unfold inside? at found
    split at found
    · next run last _ closed =>
      cases found
      rw [closing?_eq_some closed]
      rfl
    · split at found
      · cases found
      · obtain ⟨⟨further, last⟩, inner, same⟩ := Option.map_eq_some_iff.mp found
        cases same
        rw [ih inner]
        rfl

/-- A literal is its inside and its closing mark. -/
theorem literal?_eq_some (found : literal? quote text = some (inside, after)) :
    text = inside ++ quote :: after := by
  unfold literal? at found
  split at found
  · next longer =>
    cases found
    exact inside?_eq_some longer
  · split at found
    · cases found
    · split at found
      · next ends =>
        cases found
        rw [ends]
        rfl
      · cases found

theorem takePiece_formed (c : Char) (rest : List Char) : Formed (takePiece c rest).1 := by
  unfold takePiece
  split
  · next wordly =>
    refine .bare ?_ (List.cons_ne_nil c _)
    exact List.forall_mem_cons.mpr ⟨wordly, fun d => List.mem_takeWhile_imp⟩
  · next other =>
    split
    · next inside after found =>
      unfold literalFrom? at found
      split at found
      · next marked => exact .quoted marked inside
      · cases found
    · exact .mark (by simpa using other)

/-- The first piece and what follows it are the text. -/
theorem takePiece_append (c : Char) (rest : List Char) :
    (takePiece c rest).1 ++ (takePiece c rest).2 = c :: rest := by
  unfold takePiece
  split
  · rw [List.cons_append, List.takeWhile_append_dropWhile]
  · split
    · next inside after found =>
      unfold literalFrom? at found
      split at found
      · rw [literal?_eq_some found]
        simp
      · cases found
    · rfl

theorem formed_of_mem_pieces (listed : piece ∈ pieces text) : Formed piece := by
  fun_induction pieces text with
  | case1 => cases listed
  | case2 c rest ih =>
    rcases List.mem_cons.mp listed with rfl | behind
    · exact takePiece_formed c rest
    · exact ih behind

theorem pieces_flatten (text : List Char) : (pieces text).flatten = text := by
  fun_induction pieces text with
  | case1 => rfl
  | case2 c rest ih => rw [List.flatten_cons, ih, takePiece_append]

/-- A run of backslashes ends at any other character, so halving goes on behind it as if anew. -/
theorem halve_append (bare : c ≠ '\\') (text rest : List Char) :
    halve (text ++ c :: rest) = halve text ++ c :: halve rest := by
  fun_induction halve text with
  | case1 more ih =>
    rw [List.cons_append, List.cons_append, halve, ih]
    rfl
  | case2 =>
    rw [List.singleton_append, halve]
    · rfl
    · exact bare
  | case3 d more other ih =>
    rw [List.cons_append, List.cons_append, halve, ih]
    · rfl
    · exact other
  | case4 d more _ lone pair ih =>
    rw [List.cons_append, halve_bare (Spelling.bare_of_unmatched lone pair), ih]
    rfl
  | case5 => exact halve_bare bare rest

theorem halve_quoted (marked : isQuote quote = true) (text : List Char) :
    halve (quote :: (text ++ [quote])) = quote :: (halve text ++ [quote]) := by
  have bare := (quote_clear marked).1
  rw [halve_bare bare, halve_append bare]
  rfl

/-- A piece that is neither a blank nor a backslash is a word once its backslashes are halved. -/
theorem word_or_lost (formed : Formed piece) :
    Word (halve piece) ∨ ∃ c, piece = [c] ∧ (Text.isBlank c = true ∨ c = '\\') := by
  cases formed with
  | bare run filled =>
    have same := halve_clear (clear_plain (.bare run filled))
    obtain ⟨front, back⟩ := unblank_run run
    left
    rw [same]
    exact ⟨filled, .bare run filled, front, back⟩
  | @mark c other =>
    by_cases lost : Text.isBlank c = true ∨ c = '\\'
    · exact .inr ⟨c, rfl, lost⟩
    · obtain ⟨unblank, bare⟩ := not_or.mp lost
      have same : halve [c] = [c] := halve_bare bare []
      have front : Text.isBlank c = false := by simpa using unblank
      left
      rw [same]
      exact ⟨List.cons_ne_nil c [], .mark other, by simpa using front, by simpa using front⟩
  | @quoted quote marked text =>
    have unblank := isBlank_quote marked
    left
    rw [halve_quoted marked]
    exact ⟨List.cons_ne_nil _ _, .quoted marked _, by simpa using unblank,
      by simpa [List.getLast?_cons] using unblank⟩

theorem meaning_word (word : Word (halve piece)) : meaning piece = halve piece :=
  trim_unblank word.front word.back

theorem residue_halve (text : List Char) : residue (halve text) = residue text := by
  fun_induction halve text with
  | case1 more ih => simpa [residue] using ih
  | case2 | case5 => rfl
  | case3 c more _ ih =>
    simp only [residue, List.filter_cons] at ih ⊢
    rw [ih]
    rfl
  | case4 c more _ _ _ ih =>
    simp only [residue, List.filter_cons] at ih ⊢
    rw [ih]

theorem residue_trimLeft (text : List Char) : residue (Text.trimLeft text) = residue text := by
  induction text with
  | nil => rfl
  | cons c rest ih =>
    cases blank : Text.isBlank c with
    | false => rw [Text.trimLeft, List.dropWhile_cons_of_neg (by simp [blank])]
    | true =>
      rw [Text.trimLeft, List.dropWhile_cons_of_pos blank, ← Text.trimLeft, ih]
      simp [residue, blank]

/-- Only blanks and backslashes of a piece are missing from what it stands for. -/
theorem residue_meaning (piece : List Char) : residue (meaning piece) = residue piece := by
  have reversed (text : List Char) : residue text.reverse = (residue text).reverse :=
    List.filter_reverse
  rw [meaning, Text.trim, reversed, residue_trimLeft, reversed, residue_trimLeft,
    List.reverse_reverse, residue_halve]

theorem word_of_mem_meanings (listed : word ∈ meanings text) : Word word := by
  obtain ⟨meant, filled⟩ := List.mem_filter.mp listed
  obtain ⟨piece, inside, rfl⟩ := List.mem_map.mp meant
  rcases word_or_lost (formed_of_mem_pieces inside) with word | ⟨c, rfl, lost⟩
  · exact meaning_word word ▸ word
  · rw [meaning_lost lost] at filled
    cases filled

theorem residue_meanings (text : List Char) : residue (meanings text).flatten = residue text := by
  have kept : residue ∘ meaning = residue := funext residue_meaning
  have flat (texts : List (List Char)) : residue texts.flatten = (texts.map residue).flatten :=
    List.filter_flatten
  rw [meanings, List.flatten_filter_not_isEmpty, flat, List.map_map, kept, ← flat, pieces_flatten]

theorem Spaced.indent (gap : Blank before) (spaced : Spaced text texts) :
    Spaced (before ++ text) texts := by
  cases spaced with
  | blank further => exact .blank (List.forall_mem_append.mpr ⟨gap, further⟩)
  | word further word rest =>
    rw [← List.append_assoc, ← List.append_assoc]
    exact .word (List.forall_mem_append.mpr ⟨gap, further⟩) word rest

/-- Pieces without backslashes are blanks and words. -/
theorem spaced_pieces {texts : List (List Char)} (formed : ∀ piece ∈ texts, Formed piece)
    (bare : '\\' ∉ texts.flatten) :
    Spaced texts.flatten ((texts.map meaning).filter (!·.isEmpty)) := by
  induction texts with
  | nil => exact .blank nofun
  | cons piece rest ih =>
    obtain ⟨first, further⟩ := List.forall_mem_cons.mp formed
    rw [List.flatten_cons, List.mem_append, not_or] at bare
    have behind := ih further bare.2
    rw [List.flatten_cons, List.map_cons]
    rcases word_or_lost first with word | ⟨c, rfl, lost⟩
    · have same : meaning piece = piece := (meaning_word word).trans (halve_unescaped bare.1)
      rw [same, List.filter_cons_of_pos (by simpa [halve_unescaped bare.1] using word.filled)]
      have none : Blank [] := nofun
      exact .word none piece behind
    · have blank : Text.isBlank c = true := by
        refine lost.resolve_right ?_
        rintro rfl
        exact bare.1 List.mem_cons_self
      rw [meaning_lost lost, List.filter_cons_of_neg (by simp)]
      exact behind.indent (by simpa [Blank] using blank)

/-- Every word is formed in one of three ways and not blank at its ends. Blanks and backslashes apart,
the words in their order are the text. Without backslashes the text is its words with blanks around and
between them. -/
theorem words_conserve (text : String) :
    (∀ word ∈ words text, Word word.toList) ∧
      residue (String.join (words text)).toList = residue text.toList ∧
      ('\\' ∉ text.toList → Spaced text.toList ((words text).map String.toList)) := by
  have listed : (words text).map String.toList = meanings text.toList := by
    rw [words_eq, List.map_map]
    simp
  refine ⟨fun word member => ?_, ?_, fun bare => ?_⟩
  · exact word_of_mem_meanings (listed ▸ List.mem_map_of_mem member)
  · rw [String.toList_join, List.flatMap_def, listed, residue_meanings]
  · rw [listed]
    have pieced := pieces_flatten text.toList
    have spaced := spaced_pieces (fun piece => formed_of_mem_pieces) (pieced.symm ▸ bare)
    rwa [pieced] at spaced

/-- A blank inside a literal belongs to it, and a mark that closes nothing is a word like any other. -/
theorem words_conserve_unclosed :
    '\\' ∉ " n = 'b c'\n\"d".toList ∧
      words " n = 'b c'\n\"d" = ["n", "=", "'b c'", "\"", "d"] ∧
      Spaced " n = 'b c'\n\"d".toList
        (["n", "=", "'b c'", "\"", "d"].map String.toList) := by
  have bare : '\\' ∉ " n = 'b c'\n\"d".toList := by decide
  have found : words " n = 'b c'\n\"d" = ["n", "=", "'b c'", "\"", "d"] := by decide +kernel
  have spaced := (words_conserve " n = 'b c'\n\"d").2.2 bare
  rw [found] at spaced
  exact ⟨bare, found, spaced⟩

end ChatTemplate.WordConservation
