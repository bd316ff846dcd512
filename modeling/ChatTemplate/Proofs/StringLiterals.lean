import ChatTemplate.Chat.Message
import ChatTemplate.Proofs.TokenPrinting
import ChatTemplate.Proofs.WordPrinting

/-! Literals for any text. A backslash in front of each backslash and of each mark of the literal
makes a text fit between two marks, and reading takes the backslashes away again. This fails for the
texts that are nothing but backslashes: a literal ends only behind a character that is none. -/
namespace ChatTemplate.StringLiterals
open Expression WordPrinting Trimming
open TokenPrinting (escape)

/-- The literal of a text. -/
def written (quote : Char) (text : List Char) : List Char :=
  quote :: (escape ['\\', quote] text ++ [quote])

/-- The word that a literal stands for. -/
def quoted (quote : Char) (text : List Char) : List Char := quote :: (text ++ [quote])

/-- Some backslashes and nothing else. -/
def slashes (text : List Char) : Bool := !text.isEmpty && text.all (· = '\\')

variable {quote c : Char} {text : List Char}

theorem escape_slash (quote : Char) (text : List Char) :
    escape ['\\', quote] ('\\' :: text) = '\\' :: '\\' :: escape ['\\', quote] text := rfl

theorem escape_quote (quote : Char) (text : List Char) :
    escape ['\\', quote] (quote :: text) = '\\' :: quote :: escape ['\\', quote] text := by
  simp [escape]

theorem escape_other (bare : c ≠ '\\') (other : c ≠ quote) (text : List Char) :
    escape ['\\', quote] (c :: text) = c :: escape ['\\', quote] text := by
  simp [escape, bare, other]

/-- A text is made of backslashes, of marks of its literal and of others. -/
theorem text_induction (quote : Char) {motive : List Char → Prop} (nil : motive [])
    (slash : ∀ text, motive text → motive ('\\' :: text))
    (mark : ∀ text, motive text → motive (quote :: text))
    (other : ∀ c text, c ≠ '\\' → c ≠ quote → motive text → motive (c :: text))
    (text : List Char) : motive text := by
  induction text with
  | nil => exact nil
  | cons c rest ih =>
    by_cases slashed : c = '\\'
    · exact slashed ▸ slash rest ih
    · by_cases marked : c = quote
      · exact marked ▸ mark rest ih
      · exact other c rest slashed marked ih

theorem halve_escape (bare : quote ≠ '\\') (text rest : List Char) :
    halve (escape ['\\', quote] text ++ rest) = text ++ halve rest := by
  induction text using text_induction quote with
  | nil => rfl
  | slash text ih => exact congrArg ('\\' :: ·) ih
  | mark text ih =>
    rw [escape_quote, List.cons_append, List.cons_append, halve, ih]
    · rfl
    · intros
      contradiction
  | other c text slashed marked ih =>
    rw [escape_other slashed marked, List.cons_append, halve_bare slashed, ih]
    rfl

/-- Two more backslashes in front escape as much. -/
theorem closing?_slashes (quote : Char) (rest : List Char) :
    closing? quote ('\\' :: '\\' :: rest) =
      (closing? quote rest).map fun closed => ('\\' :: '\\' :: closed.1, closed.2) := by
  have run : ('\\' :: '\\' :: rest).takeWhile (· = '\\') =
      '\\' :: '\\' :: rest.takeWhile (· = '\\') := rfl
  have behind : ('\\' :: '\\' :: rest).dropWhile (· = '\\') = rest.dropWhile (· = '\\') := rfl
  have parity (length : Nat) : (length + 1 + 1) % 2 = length % 2 := by omega
  simp only [closing?, run, behind, List.length_cons, parity]
  cases rest.dropWhile (· = '\\') with
  | nil => rfl
  | cons c after => simp only; split <;> rfl

theorem closing?_escape (bare : quote ≠ '\\') (text : List Char) :
    closing? quote (escape ['\\', quote] text ++ [quote]) =
      if text.all (· = '\\') then some (escape ['\\', quote] text, []) else none := by
  induction text using text_induction quote with
  | nil => simp [escape, closing?, bare]
  | slash text ih =>
    rw [escape_slash, List.cons_append, List.cons_append, closing?_slashes, ih]
    simp [apply_ite]
  | mark text ih =>
    rw [escape_quote]
    simp [closing?, bare]
  | other c text slashed marked ih =>
    rw [escape_other slashed marked, List.cons_append, closing?_cons slashed]
    simp [slashed, marked]

/-- Behind a character that is no backslash, the literal ends at its last mark. -/
theorem inside?_bare (bare : quote ≠ '\\') (slashed : c ≠ '\\') (unbroken : c ≠ '\n')
    (further : inside? quote (escape ['\\', quote] text ++ [quote]) =
      if text.all (· = '\\') then none else some (escape ['\\', quote] text, [])) :
    inside? quote (c :: (escape ['\\', quote] text ++ [quote])) =
      some (c :: escape ['\\', quote] text, []) := by
  rw [inside?, beq_false_of_ne slashed, closing?_escape bare, further]
  cases text.all (· = '\\') with
  | true => rfl
  | false =>
    rw [if_neg Bool.false_ne_true, if_neg unbroken]
    rfl

theorem inside?_slash (quote : Char) (rest : List Char) :
    inside? quote ('\\' :: rest) =
      (inside? quote rest).map fun found => ('\\' :: found.1, found.2) := by
  rw [inside?]
  simp

theorem inside?_escape (marked : isQuote quote = true) (unbroken : '\n' ∉ text) :
    inside? quote (escape ['\\', quote] text ++ [quote]) =
      if text.all (· = '\\') then none else some (escape ['\\', quote] text, []) := by
  obtain ⟨bare, single⟩ := quote_clear marked
  -- Only the marks of the text could end the search early, and each has its own backslash right in front.
  induction text using text_induction quote with
  | nil => simp [escape, inside?, bare, single, closing?]
  | slash text ih =>
    rw [escape_slash, List.cons_append, List.cons_append, inside?_slash, inside?_slash,
      ih (List.not_mem_of_not_mem_cons unbroken)]
    simp [apply_ite]
  | mark text ih =>
    rw [escape_quote, List.cons_append, List.cons_append, inside?_slash,
      inside?_bare bare bare single (ih (List.not_mem_of_not_mem_cons unbroken))]
    simp [bare]
  | other c text slashed marked ih =>
    obtain ⟨other, unbroken⟩ := List.ne_and_not_mem_of_not_mem_cons unbroken
    rw [escape_other slashed marked, List.cons_append,
      inside?_bare bare slashed other.symm (ih unbroken)]
    simp [slashed]

theorem literal?_escape (marked : isQuote quote = true) (unbroken : '\n' ∉ text)
    (mixed : slashes text = false) :
    literal? quote (escape ['\\', quote] text ++ [quote]) =
      some (escape ['\\', quote] text, []) := by
  unfold literal?
  rw [inside?_escape marked unbroken]
  cases text with
  | nil => simp [escape]
  | cons c rest =>
    have other : (c :: rest).all (· = '\\') = false := mixed
    rw [other, if_neg Bool.false_ne_true]

theorem literal?_slashes (marked : isQuote quote = true) (only : slashes text = true) :
    literal? quote (escape ['\\', quote] text ++ [quote]) = none := by
  cases text with
  | nil => cases only
  | cons c rest =>
    have all : (c :: rest).all (· = '\\') = true := only
    have unbroken : '\n' ∉ c :: rest := by
      intro member
      exact absurd (List.all_eq_true.mp all _ member) (by decide)
    obtain rfl : c = '\\' := by simpa using List.all_eq_true.mp all c List.mem_cons_self
    unfold literal?
    rw [inside?_escape marked unbroken, if_pos all]
    simp [escape, (quote_clear marked).1.symm]

theorem meaning_written (marked : isQuote quote = true) (text : List Char) :
    meaning (written quote text) = quoted quote text := by
  have unblank := isBlank_quote marked
  have bare := (quote_clear marked).1
  have alone : halve [quote] = [quote] := halve_bare bare []
  rw [meaning, written, halve_bare bare, halve_escape bare, alone]
  exact trim_unblank (by simpa using unblank) (by simpa [List.getLast?_cons] using unblank)

theorem meanings_written_mixed (marked : isQuote quote = true) (unbroken : '\n' ∉ text)
    (mixed : slashes text = false) : meanings (written quote text) = [quoted quote text] := by
  have found := literal?_escape marked unbroken mixed
  rw [meanings, written, pieces_quoted marked found, ← written, List.map_cons,
    meaning_written marked, pieces]
  rfl

theorem pieces_unclosed (marked : isQuote quote = true) (unclosed : literal? quote rest = none) :
    pieces (quote :: rest) = [quote] :: pieces rest := by
  rw [pieces, takePiece, isWordChar_quote marked, literalFrom?, if_pos marked, unclosed]
  simp

/-- A mark that begins no literal is a word by itself. -/
theorem meanings_unclosed (marked : isQuote quote = true) (unclosed : literal? quote rest = none) :
    meanings (quote :: rest) = [quote] :: meanings rest := by
  have unblank := isBlank_quote marked
  have alone : halve [quote] = [quote] := halve_bare (quote_clear marked).1 []
  have same : meaning [quote] = [quote] := by
    rw [meaning, alone]
    exact trim_unblank (by simpa using unblank) (by simpa using unblank)
  exact meanings_cons (pieces_unclosed marked unclosed) same (List.cons_ne_nil quote [])

theorem meanings_written_slashes (marked : isQuote quote = true) (only : slashes text = true) :
    meanings (written quote text) = [[quote], [quote]] := by
  have behind (text : List Char) (only : ∀ c ∈ text, c = '\\') :
      meanings (escape ['\\', quote] text ++ [quote]) = [[quote]] := by
    induction text with
    | nil =>
      have last : meanings [quote] = [quote] :: meanings [] := meanings_unclosed marked rfl
      simpa [escape, meanings, pieces] using last
    | cons c rest ih =>
      obtain ⟨rfl, further⟩ := List.forall_mem_cons.mp only
      rw [escape_slash, List.cons_append, List.cons_append, meanings_lost (.inr rfl),
        meanings_lost (.inr rfl), ih further]
  have all : ∀ c ∈ text, c = '\\' := by
    simpa using (Bool.and_eq_true_iff.mp only).2
  rw [written, meanings_unclosed marked (literal?_slashes marked only), behind text all]

/-- No numeral begins with a mark. -/
theorem read?_quoted (marked : isQuote quote = true) (text : List Char) :
    Decimal.read? (String.ofList (quoted quote text)) = none := by
  obtain rfl | rfl : quote = '"' ∨ quote = '\'' := by simpa [isQuote] using marked
  all_goals
    simp [quoted, Decimal.read?, Decimal.signed, Decimal.magnitude?, Decimal.scientific?,
      String.ext_iff]

theorem unquoted?_quoted (marked : isQuote quote = true) (text : List Char) :
    Chat.Message.unquoted? (String.ofList (quoted quote text)) = some (String.ofList text) := by
  obtain rfl | rfl : quote = '"' ∨ quote = '\'' := by simpa [isQuote] using marked
  all_goals simp [quoted, Chat.Message.unquoted?]

/-- A word in marks is none of the names, so it means the text between its marks. -/
theorem resolve?_quoted (message : Chat.Message) (marked : isQuote quote = true) (text : List Char) :
    message.resolve? (String.ofList (quoted quote text)) = some (.str (String.ofList text)) := by
  have unnamed : ∀ name ∈ ["a", "author", "r", "role", "ch", "channel", "cat", "category", "n",
      "disc", "c", "d", "display"], String.ofList (quoted quote text) ≠ name := by
    have unmarked : ∀ name ∈ ["a", "author", "r", "role", "ch", "channel", "cat", "category", "n",
        "disc", "c", "d", "display"], name.toList.head?.any isQuote = false := by decide
    rintro name listed rfl
    have other := unmarked _ listed
    rw [String.toList_ofList, quoted, List.head?_cons, Option.any_some, marked] at other
    cases other
  unfold Chat.Message.resolve?
  rw [read?_quoted marked]
  dsimp only
  split
  case h_14 => rw [unquoted?_quoted marked]; rfl
  all_goals
    next same => exact absurd same (unnamed _ (by decide))

/-- Every text has a literal that is read back as it is, unless it is nothing but backslashes. Then
both marks are words by themselves. The word of any text in marks means the text. -/
theorem words_written (quote : Char) (marked : isQuote quote = true) (text : String)
    (unbroken : '\n' ∉ text.toList) :
    (words (String.ofList (written quote text.toList)) =
      if slashes text.toList then [String.singleton quote, String.singleton quote]
      else [String.ofList (quoted quote text.toList)]) ∧
      ∀ message : Chat.Message,
        message.resolve? (String.ofList (quoted quote text.toList)) = some (.str text) := by
  constructor
  · rw [words_eq, String.toList_ofList]
    cases only : slashes text.toList with
    | true =>
      rw [meanings_written_slashes marked only]
      rfl
    | false =>
      rw [meanings_written_mixed marked unbroken only]
      rfl
  · intro message
    rw [resolve?_quoted message marked, String.ofList_toList]

/-- A backslash at the end, a mark and a backslash in front of a mark all come back. -/
theorem words_written_mixed :
    words "\"\\\"a\\\\\\\"b\\\\\"" = ["\"\"a\\\"b\\\""] ∧
      ∀ message : Chat.Message,
        message.resolve? "\"\"a\\\"b\\\"" = some (.str "\"a\\\"b\\") :=
  words_written '"' rfl "\"a\\\"b\\" (by decide)

/-- The literal of a backslash is torn apart. -/
theorem words_written_slash :
    '\n' ∉ "\\".toList ∧ words (String.ofList (written '"' "\\".toList)) = ["\"", "\""] ∧
      ["\"", "\""] ≠ [String.ofList (quoted '"' "\\".toList)] := by
  refine ⟨by decide, by decide +kernel, by decide⟩

end ChatTemplate.StringLiterals
