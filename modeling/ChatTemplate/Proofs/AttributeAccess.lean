import Mathlib.Data.List.Basic
import ChatTemplate.Chat.Message
import ChatTemplate.Proofs.WordPrinting
import ChatTemplate.Rendering.Tokens

/-! Reading an attribute in an exec block and in a condition. An exec block is cut at its colon and
trimmed, a condition is cut into words and evaluated with two stacks. Both come to the same: the
owner is looked up, then the attribute, and the attribute is read. So an exec block shows what the
same text means in a condition, or fails with the same fault, and never tries a command. -/
namespace ChatTemplate.AttributeAccess
open Expression WordPrinting Trimming

/-- A run of word characters that is no operator. -/
structure Name (name : String) : Prop where
  filled : name ≠ ""
  run : ∀ c ∈ name.toList, Text.isWordChar c = true
  operand : ∀ op : Operator, op.symbol ≠ name

/-- A name with blanks around it. -/
def Padded (text : List Char) (name : String) : Prop :=
  ∃ before after, Blank before ∧ Blank after ∧ text = before ++ name.toList ++ after

/-- Two names with a colon between them, and blanks wherever they may stand. -/
structure Access (text owner label : String) : Prop where
  first : Name owner
  second : Name label
  spelled : ∃ before after, Padded before owner ∧ Padded after label ∧
    text.toList = before ++ ':' :: after

variable {O : Type} {owner label name : String}

/-- The owner is looked up first, then the attribute, which is known by its own name if it names
nothing else. -/
def access (host : Host O) (owner label : String) : Traced (Value O) := do
  let object ← host.lookUp owner
  let named ← host.lookUp label
  Traced.ofExcept
    (readAttribute host.toObjects (object.getD .null) (named.getD (.str label)))

theorem ofSymbol?_name (named : Name name) : Operator.ofSymbol? name = none := by
  cases found : Operator.ofSymbol? name with
  | none => rfl
  | some op => exact absurd (Operator.ofSymbol?_eq_some_iff.mp found) (named.operand op)

theorem toList_name (named : Name name) : name.toList ≠ [] := by
  simpa using named.filled

theorem trim_padded (named : Name name) (padded : Padded text name) :
    Text.trim text = name.toList := by
  obtain ⟨before, after, gap, further, rfl⟩ := padded
  obtain ⟨front, back⟩ := unblank_run named.run
  have left : Text.trimLeft (before ++ name.toList ++ after) = name.toList ++ after := by
    rw [List.append_assoc, trimLeft_blank gap, trimLeft_unblank]
    rwa [List.head?_append_of_ne_nil _ (toList_name named)]
  have right : Text.trimLeft (name.toList ++ after).reverse = name.toList.reverse := by
    rw [List.reverse_append, trimLeft_blank (by simpa [Blank] using further), trimLeft_unblank]
    rwa [List.head?_reverse]
  rw [Text.trim, left, right, List.reverse_reverse]

theorem colon_padded (named : Name name) (padded : Padded text name) : ':' ∉ text := by
  obtain ⟨before, after, gap, further, rfl⟩ := padded
  intro colon
  rw [List.mem_append, List.mem_append] at colon
  rcases colon with (inside | inside) | inside
  · exact absurd (gap ':' inside) (by decide)
  · exact absurd (named.run ':' inside) (by decide)
  · exact absurd (further ':' inside) (by decide)

theorem execValue_access (host : Host O) (spelled : Access text owner label) :
    execValue host text = some <$> access host owner label := by
  obtain ⟨first, second, before, after, left, right, split⟩ := spelled
  have cut : Text.cutAt? ':' text.toList = some (before, after) := by
    rw [split, cutAt?_append (colon_padded first left)]
  simp only [execValue, access, cut, trim_padded first left, trim_padded second right,
    String.ofList_toList, map_bind, bind_pure_comp]

theorem meanings_blank (gap : Blank before) (rest : List Char) :
    meanings (before ++ rest) = meanings rest := by
  induction before with
  | nil => rfl
  | cons c more ih =>
    obtain ⟨blank, behind⟩ := List.forall_mem_cons.mp gap
    rw [List.cons_append, meanings_lost (.inl blank), ih behind]

/-- A name is a word, and the blanks around it are none. -/
theorem meanings_padded (named : Name name) (padded : Padded text name)
    (apart : ∀ c ∈ rest.head?, Text.isWordChar c = false) :
    meanings (text ++ rest) = name.toList :: meanings rest := by
  obtain ⟨before, after, gap, further, rfl⟩ := padded
  have filled := toList_name named
  have behind : ∀ c ∈ (after ++ rest).head?, Text.isWordChar c = false := by
    cases after with
    | nil => exact apart
    | cons c more =>
      rintro c ⟨⟩
      exact isWordChar_of_blank (further c List.mem_cons_self)
  have first := pieces_bare named.run filled behind
  rw [List.append_assoc, List.append_assoc, meanings_blank gap,
    meanings_cons first (meaning_plain (.bare named.run filled)) filled, meanings_blank further]

theorem words_access (spelled : Access text owner label) : words text = [owner, ":", label] := by
  obtain ⟨first, second, before, after, left, right, split⟩ := spelled
  have colon : meanings (':' :: after) = [':'] :: meanings after :=
    meanings_cons (pieces_mark (by decide) (by decide) after) (by decide) (List.cons_ne_nil _ _)
  have last : meanings (after ++ []) = label.toList :: meanings [] :=
    meanings_padded second right nofun
  have none : meanings [] = [] := by simp [meanings, pieces]
  rw [List.append_nil, none] at last
  have apart : ∀ c ∈ (':' :: after).head?, Text.isWordChar c = false := by
    rintro c ⟨⟩
    decide
  rw [words_eq, split, meanings_padded first left apart, colon, last]
  simp

variable [DecidableEq O]

theorem evaluate_access (host : Host O) (first : Name owner) (second : Name label) :
    evaluate host [owner, ":", label] = access host owner label := by
  have evaluated := evaluate_binary host .attribute (ofSymbol?_name first) (ofSymbol?_name second)
  rw [show ":" = Binary.attribute.symbol from rfl, evaluated]
  rfl

/-- An exec block that reads an attribute shows what its text means in a condition. It asks for the
two names in their order and for nothing else, so it tries no command. -/
theorem interpret_access (host : Host O) (limit : Nat) (spelled : Access text owner label) :
    interpret host limit [.exec text] =
        Value.display host.toObjects <$> evaluate host (words text) ∧
      (interpret host limit [.exec text]).calls = [.resolve owner, .resolve label] := by
  have shown : interpret host limit [.exec text] =
      Value.display host.toObjects <$> access host owner label := by
    simp only [interpret, renderTokens, renderExec, execValue_access host spelled]
    simp
  constructor
  · rw [shown, words_access spelled, evaluate_access host spelled.first spelled.second]
  · rw [shown, Trace.map_calls]
    rfl

/-- The short name of an attribute, with blanks around the colon. -/
theorem interpret_access_padded :
    let message : Chat.Message :=
      { Chat.Message.standard with author := { name := "Bob", discriminator := some "0420" } }
    let host := message.host fun _ => true
    Access " a\n: disc" "a" "disc" ∧
      interpret host 0 [.exec " a\n: disc"] =
        Value.display host.toObjects <$> evaluate host (words " a\n: disc") ∧
      (evaluate host (words " a\n: disc")).outcome = .ok (.str "0420") := by
  intro message host
  have operands : ∀ op ∈ Operator.all, op.symbol ≠ "a" ∧ op.symbol ≠ "disc" := by decide
  have first : Name "a" :=
    ⟨by decide, List.all_eq_true.mp rfl, fun op => (operands op (Operator.mem_all op)).1⟩
  have second : Name "disc" :=
    ⟨by decide, List.all_eq_true.mp rfl, fun op => (operands op (Operator.mem_all op)).2⟩
  have gap (c : Char) (blank : Text.isBlank c = true) : Blank [c] := by simpa [Blank] using blank
  have none : Blank [] := by simp [Blank]
  have spelled : Access " a\n: disc" "a" "disc" :=
    ⟨first, second, [' ', 'a', '\n'], [' ', 'd', 'i', 's', 'c'],
      ⟨[' '], ['\n'], gap ' ' rfl, gap '\n' rfl, rfl⟩, ⟨[' '], [], gap ' ' rfl, none, rfl⟩, rfl⟩
  refine ⟨spelled, (interpret_access host 0 spelled).1, ?_⟩
  rw [words_access spelled]
  rfl

end ChatTemplate.AttributeAccess
