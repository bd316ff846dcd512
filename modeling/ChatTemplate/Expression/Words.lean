import ChatTemplate.Text.Blank
import ChatTemplate.Text.WordChar

/-! Cutting the text of an expression into its words: bare runs of word characters, quoted literals
and single characters of any other sort. Blank separates words and is none. A backslash keeps a
quote from closing a literal and halves: of a run of backslashes inside one word half remain,
rounded down. -/
namespace ChatTemplate.Expression

/-- The run of backslashes at the front and what follows a closing quote right after it. An odd
run escapes the quote. -/
def closing? (quote : Char) (text : List Char) : Option (List Char × List Char) :=
  let run := text.takeWhile (· = '\\')
  match text.dropWhile (· = '\\') with
  | [] => none
  | c :: after => if c = quote ∧ run.length % 2 = 0 then some (run, after) else none

/-- The inside of a literal with at least one character and what follows its closing quote. The
literal ends at the first quote that an even run of backslashes after some other character
precedes; only that character may be a line feed. -/
def inside? (quote : Char) : List Char → Option (List Char × List Char)
  | [] => none
  | c :: rest =>
    match c == '\\', closing? quote rest with
    | false, some (run, after) => some (c :: run, after)
    | _, _ =>
      if c = '\n' then none
      else (inside? quote rest).map fun found => (c :: found.1, found.2)

/-- The inside of a literal from behind its opening quote. It is empty only where no longer literal
begins at the same quote. -/
def literal? (quote : Char) (text : List Char) : Option (List Char × List Char) :=
  match inside? quote text with
  | some found => some found
  | none =>
    match text with
    | [] => none
    | c :: after => if c = quote then some ([], after) else none

private theorem closing?_length {quote : Char} {text run after : List Char}
    (closed : closing? quote text = some (run, after)) : after.length < text.length := by
  have shorter := (List.dropWhile_suffix (· = '\\') (l := text)).length_le
  simp only [closing?] at closed
  split at closed
  · cases closed
  · next c rest opened =>
    rw [opened, List.length_cons] at shorter
    split at closed
    · simp only [Option.some.injEq, Prod.mk.injEq] at closed
      rw [← closed.2]
      omega
    · cases closed

private theorem inside?_length {quote : Char} {text inside after : List Char}
    (found : inside? quote text = some (inside, after)) : after.length < text.length := by
  induction text generalizing inside with
  | nil => simp [inside?] at found
  | cons c rest ih =>
    unfold inside? at found
    rw [List.length_cons]
    split at found
    · next closed =>
      have shorter := closing?_length closed
      simp only [Option.some.injEq, Prod.mk.injEq] at found
      rw [← found.2]
      omega
    · split at found
      · cases found
      · obtain ⟨⟨text, last⟩, inner, same⟩ := Option.map_eq_some_iff.1 found
        simp only [Prod.mk.injEq] at same
        have shorter := ih (same.2 ▸ inner)
        omega

/-- A literal takes up its closing quote. -/
theorem literal?_length {quote : Char} {text inside after : List Char}
    (found : literal? quote text = some (inside, after)) : after.length < text.length := by
  unfold literal? at found
  split at found
  · next longer => exact inside?_length (found ▸ longer)
  · split at found
    · cases found
    · split at found
      · simp only [Option.some.injEq, Prod.mk.injEq] at found
        simp [found.2]
      · cases found

/-- The marks that a literal can stand between. -/
def isQuote (c : Char) : Bool := c = '"' || c = '\''

/-- A literal whose opening mark is `c`. -/
def literalFrom? (c : Char) (rest : List Char) : Option (List Char × List Char) :=
  if isQuote c then literal? c rest else none

/-- The first word of a text that begins with `c`, as it is written, and what follows it. -/
def takePiece (c : Char) (rest : List Char) : List Char × List Char :=
  if Text.isWordChar c then (c :: rest.takeWhile Text.isWordChar, rest.dropWhile Text.isWordChar)
  else
    match literalFrom? c rest with
    | some (inside, after) => (c :: inside ++ [c], after)
    | none => ([c], rest)

theorem takePiece_length (c : Char) (rest : List Char) :
    (takePiece c rest).2.length ≤ rest.length := by
  unfold takePiece
  split
  · exact (List.dropWhile_suffix Text.isWordChar).length_le
  · split
    · next found =>
      unfold literalFrom? at found
      split at found
      · exact Nat.le_of_lt (literal?_length found)
      · cases found
    · exact Nat.le_refl _

/-- The words as they are written, and every blank and backslash between them. -/
def pieces : List Char → List (List Char)
  | [] => []
  | c :: rest => (takePiece c rest).1 :: pieces (takePiece c rest).2
termination_by text => text.length
decreasing_by exact Nat.lt_succ_of_le (takePiece_length c rest)

/-- Each run of backslashes at half its length. -/
def halve : List Char → List Char
  | '\\' :: '\\' :: rest => '\\' :: halve rest
  | ['\\'] => []
  | '\\' :: c :: rest => c :: halve rest
  | c :: rest => c :: halve rest
  | [] => []

/-- What a word as it is written stands for. -/
def meaning (piece : List Char) : List Char := Text.trim (halve piece)

/-- The words of an expression. -/
def words (text : String) : List String :=
  ((pieces text.toList).map meaning |>.filter (!·.isEmpty)).map String.ofList

end ChatTemplate.Expression
