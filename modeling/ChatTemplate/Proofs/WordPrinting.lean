import ChatTemplate.Expression.Words
import ChatTemplate.Proofs.Trimming

/-! Writing the words of an expression with a space between each two. Reading them gives the same
words back, with one exception: an empty literal runs on to the next mark of its kind if there is
one. -/
namespace ChatTemplate.WordPrinting
open Expression Trimming

/-- The words that stand for themselves: a run of word characters, a single other mark, or a literal
that holds neither its own mark nor anything to escape. -/
inductive Plain : List Char → Prop where
  | bare (run : ∀ c ∈ text, Text.isWordChar c = true) (filled : text ≠ []) : Plain text
  | mark (other : Text.isWordChar c = false) (unblank : Text.isBlank c = false)
      (unquoted : isQuote c = false) (unescaped : c ≠ '\\') : Plain [c]
  | literal (quoted : isQuote quote = true)
      (inside : ∀ c ∈ text, c ≠ quote ∧ c ≠ '\\' ∧ c ≠ '\n') : Plain (quote :: (text ++ [quote]))

/-- An empty literal, and a word with the same mark. -/
def Reopens (word later : List Char) : Prop :=
  ∃ quote ∈ later, isQuote quote = true ∧ word = [quote, quote]

/-- A text without escapes and line feeds. -/
def Clear (text : List Char) : Prop := ∀ c ∈ text, c ≠ '\\' ∧ c ≠ '\n'

/-- No blank is a word character. -/
theorem isWordChar_of_blank (blank : Text.isBlank c = true) : Text.isWordChar c = false := by
  have apart : ∀ code ∈ List.range' 9 5 ++ [0x20, 0x85, 0xA0, 0x1680] ++ List.range' 0x2000 11 ++
      [0x2028, 0x2029, 0x202F, 0x205F, 0x3000], Text.isWordChar (Char.ofNat code) = false := by
    decide +kernel
  simp only [Text.isBlank, Bool.or_eq_true, Bool.and_eq_true, decide_eq_true_eq, beq_iff_eq] at blank
  have listed := apart c.toNat (by
    simp only [List.mem_append, List.mem_range'_1, List.mem_cons, List.not_mem_nil, or_false]
    omega)
  rwa [Char.ofNat_toNat] at listed

theorem isBlank_of_wordChar (run : Text.isWordChar c = true) : Text.isBlank c = false := by
  cases blank : Text.isBlank c with
  | false => rfl
  | true => rw [isWordChar_of_blank blank] at run; cases run

theorem isBlank_quote (quoted : isQuote quote = true) : Text.isBlank quote = false := by
  obtain rfl | rfl : quote = '"' ∨ quote = '\'' := by simpa [isQuote] using quoted
  all_goals decide

theorem isWordChar_quote (quoted : isQuote quote = true) : Text.isWordChar quote = false := by
  obtain rfl | rfl : quote = '"' ∨ quote = '\'' := by simpa [isQuote] using quoted
  all_goals decide

theorem quote_clear (quoted : isQuote quote = true) : quote ≠ '\\' ∧ quote ≠ '\n' := by
  constructor <;> rintro rfl <;> cases quoted

theorem quote_ne_space (quoted : isQuote quote = true) : quote ≠ ' ' := by
  rintro rfl
  cases quoted

theorem clear_quoted (quoted : isQuote quote = true) (clear : Clear text) :
    Clear (quote :: (text ++ [quote])) := by
  intro c member
  simp only [List.mem_cons, List.mem_append, List.not_mem_nil, or_false] at member
  rcases member with rfl | member | rfl
  · exact quote_clear quoted
  · exact clear c member
  · exact quote_clear quoted

theorem clear_plain (plain : Plain text) : Clear text := by
  cases plain with
  | bare run filled =>
    intro c member
    have wordly := run c member
    constructor <;> rintro rfl <;> revert wordly <;> decide
  | @mark c other unblank unquoted unescaped =>
    have unbroken : c ≠ '\n' := by
      rintro rfl
      cases unblank
    simpa [Clear] using ⟨unescaped, unbroken⟩
  | literal quoted inside => exact clear_quoted quoted fun c member => (inside c member).2

theorem halve_bare (bare : c ≠ '\\') (rest : List Char) : halve (c :: rest) = c :: halve rest := by
  rw [halve]
  all_goals
    intros
    contradiction

/-- Without backslashes there is nothing to halve. -/
theorem halve_unescaped (bare : '\\' ∉ text) : halve text = text := by
  induction text with
  | nil => rfl
  | cons c rest ih =>
    obtain ⟨other, behind⟩ := List.ne_and_not_mem_of_not_mem_cons bare
    rw [halve_bare other.symm, ih behind]

theorem halve_clear (clear : Clear text) : halve text = text :=
  halve_unescaped fun slash => (clear '\\' slash).1 rfl

/-- Neither end of a run of word characters is blank. -/
theorem unblank_run {text : List Char} (run : ∀ c ∈ text, Text.isWordChar c = true) :
    (∀ c ∈ text.head?, Text.isBlank c = false) ∧ ∀ c ∈ text.getLast?, Text.isBlank c = false :=
  ⟨fun c first => isBlank_of_wordChar (run c (List.mem_of_mem_head? first)),
    fun c last => isBlank_of_wordChar (run c (List.mem_of_mem_getLast? last))⟩

/-- A blank or a backslash by itself stands for nothing. -/
theorem meaning_lost (lost : Text.isBlank c = true ∨ c = '\\') : meaning [c] = [] := by
  rcases lost with blank | rfl
  · have bare : c ≠ '\\' := by
      rintro rfl
      cases blank
    have same : halve [c] = [c] := halve_bare bare []
    simp [meaning, same, Text.trim, Text.trimLeft, blank]
  · rfl

/-- A text in marks stands for itself. -/
theorem meaning_quoted (quoted : isQuote quote = true) (clear : Clear text) :
    meaning (quote :: (text ++ [quote])) = quote :: (text ++ [quote]) := by
  have unblank := isBlank_quote quoted
  rw [meaning, halve_clear (clear_quoted quoted clear)]
  exact trim_unblank (by simpa using unblank) (by simpa [List.getLast?_cons] using unblank)

theorem meaning_plain (plain : Plain text) : meaning text = text := by
  cases plain with
  | bare run filled =>
    rw [meaning, halve_clear (clear_plain (.bare run filled))]
    obtain ⟨front, back⟩ := unblank_run run
    exact trim_unblank front back
  | mark other unblank unquoted unescaped =>
    rw [meaning, halve_clear (clear_plain (.mark other unblank unquoted unescaped))]
    exact trim_unblank (by simpa using unblank) (by simpa using unblank)
  | literal quoted inside => exact meaning_quoted quoted fun c member => (inside c member).2

theorem closing?_cons (bare : c ≠ '\\') (rest : List Char) :
    closing? quote (c :: rest) = if c = quote then some ([], rest) else none := by
  simp [closing?, bare]

/-- Without escapes a literal that is not empty ends at the first mark behind its first character,
which may be a mark itself. -/
theorem inside?_clear (clear : Clear (c :: text)) :
    inside? quote (c :: text) = (Text.cutAt? quote text).map fun cut => (c :: cut.1, cut.2) := by
  induction text generalizing c with
  | nil => simp [inside?, closing?, Text.cutAt?]
  | cons d rest ih =>
    obtain ⟨⟨bare, unbroken⟩, behind⟩ := List.forall_mem_cons.mp clear
    obtain ⟨⟨bareNext, -⟩, -⟩ := List.forall_mem_cons.mp behind
    rw [inside?, beq_false_of_ne bare, closing?_cons bareNext, Text.cutAt?, ih behind]
    by_cases ends : d = quote
    · simp [ends]
    -- a mark further on ends both, the literal with one character more in front
    · simp [ends, unbroken]

theorem cutAt?_append (clear : mark ∉ before) (after : List Char) :
    Text.cutAt? mark (before ++ mark :: after) = some (before, after) := by
  induction before with
  | nil => simp [Text.cutAt?]
  | cons c rest ih =>
    obtain ⟨other, behind⟩ := List.ne_and_not_mem_of_not_mem_cons clear
    simp [Text.cutAt?, Ne.symm other, ih behind]

theorem cutAt?_none (clear : mark ∉ text) : Text.cutAt? mark text = none := by
  cases cut : Text.cutAt? mark text with
  | none => rfl
  | some found => simp [(Text.cutAt?_eq_some cut).1] at clear

/-- A literal with something in it, up to its closing mark. -/
theorem literal?_filled (clear : Clear (c :: (inside ++ quote :: after)))
    (unmarked : quote ∉ inside) :
    literal? quote (c :: (inside ++ quote :: after)) = some (c :: inside, after) := by
  rw [literal?, inside?_clear clear, cutAt?_append unmarked]
  rfl

/-- An empty literal, where no mark of its kind follows. -/
theorem literal?_empty (clear : Clear (quote :: after)) (unmarked : quote ∉ after) :
    literal? quote (quote :: after) = some ([], after) := by
  rw [literal?, inside?_clear clear, cutAt?_none unmarked]
  simp

theorem pieces_bare (run : ∀ c ∈ text, Text.isWordChar c = true) (filled : text ≠ [])
    (apart : ∀ c ∈ rest.head?, Text.isWordChar c = false) :
    pieces (text ++ rest) = text :: pieces rest := by
  have none : rest.takeWhile Text.isWordChar = [] ∧ rest.dropWhile Text.isWordChar = rest := by
    cases rest with
    | nil => exact ⟨rfl, rfl⟩
    | cons c after => simp [apart c rfl]
  cases text with
  | nil => exact absurd rfl filled
  | cons c more =>
    obtain ⟨first, behind⟩ := List.forall_mem_cons.mp run
    rw [List.cons_append, pieces, takePiece, if_pos first, List.takeWhile_append_of_pos behind,
      List.dropWhile_append_of_pos behind, none.1, none.2, List.append_nil]

theorem pieces_quoted (quoted : isQuote quote = true)
    (found : literal? quote source = some (text, rest)) :
    pieces (quote :: source) = (quote :: (text ++ [quote])) :: pieces rest := by
  rw [pieces, takePiece, isWordChar_quote quoted, literalFrom?, if_pos quoted, found]
  simp

theorem pieces_mark (other : Text.isWordChar c = false) (unquoted : isQuote c = false)
    (rest : List Char) : pieces (c :: rest) = [c] :: pieces rest := by
  rw [pieces, takePiece, other, literalFrom?, unquoted]
  simp

/-- A word is read as it is written where no word character follows right behind it and, behind an
empty literal, no mark of its kind. -/
theorem pieces_plain (plain : Plain text) (apart : ∀ c ∈ rest.head?, Text.isWordChar c = false)
    (clear : Clear rest) (unopened : ¬ Reopens text rest) :
    pieces (text ++ rest) = text :: pieces rest := by
  have whole : Clear (text ++ rest) := List.forall_mem_append.mpr ⟨clear_plain plain, clear⟩
  cases plain with
  | bare run filled => exact pieces_bare run filled apart
  | mark other unblank unquoted unescaped => exact pieces_mark other unquoted rest
  | @literal quote inside quoted unmarked =>
    rw [List.cons_append, List.append_assoc, List.singleton_append] at whole ⊢
    refine pieces_quoted quoted ?_
    have behind := (List.forall_mem_cons.mp whole).2
    cases inside with
    | nil => exact literal?_empty behind fun again => unopened ⟨quote, again, quoted, rfl⟩
    | cons c inside =>
      exact literal?_filled behind fun member =>
        absurd rfl (unmarked quote (List.mem_cons_of_mem c member)).1

/-- What the words of a text stand for, character by character. -/
def meanings (text : List Char) : List (List Char) :=
  ((pieces text).map meaning).filter (!·.isEmpty)

theorem words_eq (text : String) : words text = (meanings text.toList).map String.ofList := rfl

theorem meanings_cons (first : pieces text = piece :: pieces rest) (same : meaning piece = piece)
    (filled : piece ≠ []) : meanings text = piece :: meanings rest := by
  rw [meanings, first, List.map_cons, same, List.filter_cons_of_pos (by simpa using filled)]
  rfl

/-- A blank or a backslash between words is none. -/
theorem meanings_lost (lost : Text.isBlank c = true ∨ c = '\\') (rest : List Char) :
    meanings (c :: rest) = meanings rest := by
  have other : Text.isWordChar c = false ∧ isQuote c = false := by
    rcases lost with blank | rfl
    · refine ⟨isWordChar_of_blank blank, Bool.eq_false_iff.mpr fun marked => ?_⟩
      rw [isBlank_quote marked] at blank
      cases blank
    · decide
  rw [meanings, pieces_mark other.1 other.2, List.map_cons, meaning_lost lost]
  rfl

theorem filled_plain (plain : Plain text) : text ≠ [] := by
  cases plain with
  | bare run filled => exact filled
  | mark | literal => nofun

/-- The mark of a literal is no space. -/
theorem reopens_space : Reopens text (' ' :: rest) ↔ Reopens text rest := by
  constructor
  · rintro ⟨quote, member, quoted, same⟩
    rcases List.mem_cons.mp member with space | behind
    · exact absurd space (quote_ne_space quoted)
    · exact ⟨quote, behind, quoted, same⟩
  · rintro ⟨quote, member, quoted, same⟩
    exact ⟨quote, List.mem_cons_of_mem _ member, quoted, same⟩

theorem meanings_plain (plain : Plain text) (clear : Clear rest) (unopened : ¬ Reopens text rest) :
    meanings (text ++ ' ' :: rest) = text :: meanings rest := by
  have spaced : Clear (' ' :: rest) := List.forall_mem_cons.mpr ⟨by decide, clear⟩
  have apart : ∀ c ∈ (' ' :: rest).head?, Text.isWordChar c = false := by
    intro c first
    cases first
    decide
  have first := pieces_plain plain apart spaced fun again => unopened (reopens_space.mp again)
  rw [meanings_cons first (meaning_plain plain) (filled_plain plain),
    meanings_lost (.inl rfl)]

theorem meanings_alone (plain : Plain text) : meanings text = [text] := by
  have first : pieces (text ++ []) = text :: pieces [] :=
    pieces_plain plain nofun nofun fun ⟨_, member, _⟩ => absurd member List.not_mem_nil
  rw [List.append_nil] at first
  rw [meanings_cons first (meaning_plain plain) (filled_plain plain)]
  simp [meanings, pieces]

/-- An empty literal takes up its later mark and all that stands before it. -/
theorem meanings_reopened (clear : Clear rest) (again : Reopens text rest) :
    (meanings (text ++ ' ' :: rest)).head? ≠ some text := by
  obtain ⟨quote, member, quoted, rfl⟩ := again
  obtain ⟨before, after, rfl, unmarked⟩ := List.eq_append_cons_of_mem member
  obtain ⟨clearBefore, -⟩ := List.forall_mem_append.mp clear
  have clearLonger : Clear (quote :: ' ' :: before) :=
    List.forall_mem_cons.mpr
      ⟨quote_clear quoted, List.forall_mem_cons.mpr ⟨by decide, clearBefore⟩⟩
  have clearBehind : Clear (quote :: (' ' :: before ++ quote :: after)) :=
    List.forall_mem_cons.mpr ⟨quote_clear quoted, List.forall_mem_cons.mpr ⟨by decide, clear⟩⟩
  have found := literal?_filled clearBehind (by simp [quote_ne_space quoted, unmarked])
  rw [List.cons_append, List.singleton_append, ← List.cons_append,
    meanings_cons (pieces_quoted quoted found) (meaning_quoted quoted clearLonger) nofun]
  simp

/-- What stands between words is no part of them. -/
theorem mem_written (other : c ≠ ' ') (texts : List (List Char)) :
    c ∈ [' '].intercalate texts ↔ ∃ text ∈ texts, c ∈ text := by
  induction texts with
  | nil => simp
  | cons text rest ih =>
    cases rest with
    | nil => simp
    | cons next more =>
      rw [List.intercalate_cons_cons, List.mem_append, List.mem_append, ih]
      simp [other]

theorem clear_written (plain : ∀ text ∈ texts, Plain text) : Clear ([' '].intercalate texts) := by
  intro c member
  by_cases space : c = ' '
  · subst space
    decide
  · obtain ⟨text, listed, inside⟩ := (mem_written space texts).mp member
    exact clear_plain (plain text listed) c inside

theorem reopens_written : Reopens text ([' '].intercalate texts) ↔
    ∃ later ∈ texts, Reopens text later := by
  constructor
  · rintro ⟨quote, member, quoted, same⟩
    obtain ⟨later, listed, inside⟩ := (mem_written (quote_ne_space quoted) texts).mp member
    exact ⟨later, listed, quote, inside, quoted, same⟩
  · rintro ⟨later, listed, quote, inside, quoted, same⟩
    have member := (mem_written (quote_ne_space quoted) texts).mpr ⟨later, listed, inside⟩
    exact ⟨quote, member, quoted, same⟩

/-- A word at the front is read back, or it is an empty literal that takes up a part of the words
behind. -/
theorem meanings_written (plain : ∀ text ∈ texts, Plain text) :
    meanings ([' '].intercalate texts) = texts ↔
      texts.Pairwise fun text later => ¬ Reopens text later := by
  induction texts with
  | nil => simp [meanings, pieces]
  | cons text rest ih =>
    obtain ⟨first, behind⟩ := List.forall_mem_cons.mp plain
    cases rest with
    | nil => simp [meanings_alone first]
    | cons next more =>
      have clear := clear_written behind
      have separate : [' '].intercalate (text :: next :: more) =
          text ++ ' ' :: [' '].intercalate (next :: more) := by
        rw [List.intercalate_cons_cons]
        simp
      rw [separate, List.pairwise_cons]
      by_cases again : Reopens text ([' '].intercalate (next :: more))
      · obtain ⟨later, listed, reopened⟩ := reopens_written.mp again
        constructor
        · intro same
          exact absurd (congrArg List.head? same) (meanings_reopened clear again)
        · intro apart
          exact absurd reopened (apart.1 later listed)
      · have apart : ∀ later ∈ next :: more, ¬ Reopens text later :=
          fun later listed reopened => again (reopens_written.mpr ⟨later, listed, reopened⟩)
        rw [meanings_plain first clear again, List.cons.injEq, ih behind]
        constructor
        · intro same
          exact ⟨apart, same.2⟩
        · intro pairwise
          exact ⟨rfl, pairwise.2⟩

/-- Words written with single spaces between them are read back if and only if no empty literal
stands before another use of its mark. -/
theorem words_intercalate {tokens : List String} (plain : ∀ token ∈ tokens, Plain token.toList) :
    words (" ".intercalate tokens) = tokens ↔
      tokens.Pairwise fun token later => ¬ Reopens token.toList later.toList := by
  have printed : ∀ text ∈ tokens.map String.toList, Plain text := by simpa using plain
  calc words (" ".intercalate tokens) = tokens
    _ ↔ meanings ([' '].intercalate (tokens.map String.toList)) = tokens.map String.toList := by
      rw [words_eq, String.toList_intercalate]
      constructor
      · intro same
        conv => rhs; rw [← same]
        simp
      · intro same
        rw [show " ".toList = [' '] from rfl, same]
        simp
    _ ↔ (tokens.map String.toList).Pairwise fun text later => ¬ Reopens text later :=
      meanings_written printed
    _ ↔ tokens.Pairwise fun token later => ¬ Reopens token.toList later.toList :=
      List.pairwise_map

/-- An empty literal comes back behind all other literals, and before those of the other mark. -/
theorem words_intercalate_empty :
    words (" ".intercalate ["''", "=", "a", "\"b c\"", "\"\""]) =
      ["''", "=", "a", "\"b c\"", "\"\""] := by
  refine (words_intercalate ?_).mpr ?_
  · simp only [List.forall_mem_cons, List.not_mem_nil, false_imp_iff, implies_true, and_true]
    exact ⟨@Plain.literal '\'' [] rfl nofun, .mark (by decide) (by decide) (by decide) (by decide),
      .bare (by simp [Text.isWordChar]) (by simp), @Plain.literal '"' ['b', ' ', 'c'] rfl (by simp),
      @Plain.literal '"' [] rfl nofun⟩
  · simp [Reopens]

/-- A literal behind an empty one is torn apart. -/
theorem words_empty_literal : (∀ token ∈ ["\"\"", "\"a\""], Plain token.toList) ∧
    words (" ".intercalate ["\"\"", "\"a\""]) = ["\"\" \"", "a", "\""] ∧
    ["\"\" \"", "a", "\""] ≠ ["\"\"", "\"a\""] := by
  refine ⟨?_, by decide +kernel, by decide⟩
  simp only [List.forall_mem_cons, List.not_mem_nil, false_imp_iff, implies_true, and_true]
  exact ⟨@Plain.literal '"' [] rfl nofun, @Plain.literal '"' ['a'] rfl (by simp)⟩

end ChatTemplate.WordPrinting
