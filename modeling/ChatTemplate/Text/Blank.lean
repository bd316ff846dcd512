/-! Blank characters and what templates do with them: trim the two ends of a text and cut a
text into its words. Blank is the Unicode property White_Space, twenty-five code points in all. -/
namespace ChatTemplate.Text

/-- The Unicode property White_Space. -/
def isBlank (c : Char) : Bool :=
  let code := c.toNat
  (9 ≤ code && code ≤ 13) || code == 0x20 || code == 0x85 || code == 0xA0 || code == 0x1680 ||
    (0x2000 ≤ code && code ≤ 0x200A) || code == 0x2028 || code == 0x2029 || code == 0x202F ||
    code == 0x205F || code == 0x3000

/-- Blank at the left end goes. -/
def trimLeft (text : List Char) : List Char := text.dropWhile isBlank

/-- Blank at both ends goes; blank inside stays. -/
def trim (text : List Char) : List Char :=
  (trimLeft (trimLeft text).reverse).reverse

/-- The stretches between blanks, the empty ones between adjacent blanks included. -/
def stretches : List Char → List (List Char)
  | [] => [[]]
  | c :: rest =>
    if isBlank c then [] :: stretches rest
    else match stretches rest with
      | [] => [[c]]
      | word :: more => (c :: word) :: more

/-- The words of a text: its stretches of non-blank characters, in order. -/
def words (text : List Char) : List (List Char) :=
  (stretches text).filter (!·.isEmpty)

/-- A string without the blanks at its ends. -/
def trimmed (text : String) : String := String.ofList (trim text.toList)

/-- The texts before and after the first `mark`, if it occurs. -/
def cutAt? (mark : Char) : List Char → Option (List Char × List Char)
  | [] => none
  | c :: rest =>
    if c = mark then some ([], rest)
    else (cutAt? mark rest).map fun cut => (c :: cut.1, cut.2)

/-- The two parts are the text around one `mark`, and the first part holds no other. -/
theorem cutAt?_eq_some {mark : Char} {text before after : List Char}
    (cut : cutAt? mark text = some (before, after)) :
    text = before ++ mark :: after ∧ mark ∉ before := by
  induction text generalizing before with
  | nil => cases cut
  | cons c rest ih =>
    unfold cutAt? at cut
    split at cut
    · next found =>
      simp only [Option.some.injEq, Prod.mk.injEq] at cut
      obtain ⟨rfl, rfl⟩ := cut
      exact ⟨by simp [found], by simp⟩
    · next other =>
      obtain ⟨⟨first, second⟩, found, same⟩ := Option.map_eq_some_iff.1 cut
      simp only [Prod.mk.injEq] at same
      obtain ⟨rfl, rfl⟩ := same
      obtain ⟨whole, absent⟩ := ih found
      refine ⟨by rw [whole, List.cons_append], ?_⟩
      rw [List.mem_cons]
      rintro (same | inside)
      · exact other same.symm
      · exact absent inside

end ChatTemplate.Text
