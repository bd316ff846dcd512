import Mathlib.Data.List.Chain
import ChatTemplate.Proofs.OperandTrees

/-! What the evaluator tells about the order of words. It knows the words by their numbers: a closing
parenthesis for every opening one, an operand more than there are operators between two. It does not
know their places: that an operator stands between its operands, a negation in front of its own, and
that a closing parenthesis closes one. Words with the right numbers are an infix expression exactly if
they stand in such places. -/
namespace ChatTemplate.WordOrder
open OperandTrees
open Expression (Progress evaluate)

/-- The words of an infix expression, however its operators bind. -/
inductive WellFormed : List String → Prop where
  | operand (plain : Operator.ofSymbol? word = none) : WellFormed [word]
  | group (inside : WellFormed words) : WellFormed ("(" :: words ++ [")"])
  | negation (inside : WellFormed words) : WellFormed ("not" :: words)
  | joined (operation : Binary) (left : WellFormed before) (right : WellFormed after) :
      WellFormed (before ++ operation.symbol :: after)

/-- An operator between two operands. -/
def joins (word : String) : Bool :=
  match Operator.ofSymbol? word with
  | some (.binary _) => true
  | _ => false

/-- An expression can end with this word. -/
def completes (word : String) : Bool :=
  match Operator.ofSymbol? word with
  | none | some .closeParen => true
  | _ => false

/-- A word that goes on with an expression or ends it has one in front of it. -/
def Follows (word next : String) : Prop := next = ")" ∨ joins next → completes word

instance (word next : String) : Decidable (Follows word next) :=
  inferInstanceAs (Decidable (_ → _))

/-- The places of the words are those of an expression. -/
structure InPlace (words : List String) : Prop where
  /-- In parentheses, no word goes on with an expression where none has ended. -/
  follows : ("(" :: words ++ [")"]).IsChain Follows
  /-- No parenthesis is closed that is not open. -/
  closes : ∀ before, before <+: words → before.count ")" ≤ before.count "("

/-- The words of the rest of an expression at some depth of parentheses. In front of it, an expression
has ended or one has to begin. -/
inductive Rest : Bool → Nat → List String → Prop where
  | done : Rest true 0 []
  | operand (plain : Operator.ofSymbol? word = none) (rest : Rest true depth words) :
      Rest false depth (word :: words)
  | opening (rest : Rest false (depth + 1) words) : Rest false depth ("(" :: words)
  | closing (rest : Rest true depth words) : Rest true (depth + 1) (")" :: words)
  | negation (rest : Rest false depth words) : Rest false depth ("not" :: words)
  | joining (operation : Binary) (rest : Rest false depth words) :
      Rest true depth (operation.symbol :: words)
  /-- Where an expression has ended, another one begins. The places of the words allow this, and only
  their numbers do not. -/
  | beside (rest : Rest false depth words) : Rest true depth words

theorem rest_of_wellFormed (expression : WellFormed before) (rest : Rest true depth after) :
    Rest false depth (before ++ after) := by
  induction expression generalizing depth after with
  | operand plain => exact .operand plain rest
  | group _ ih =>
    rw [List.cons_append, List.cons_append, List.append_assoc]
    exact .opening (ih (.closing rest))
  | negation _ ih => exact .negation (ih rest)
  | joined operation _ _ left right =>
    rw [List.append_assoc]
    exact left (.joining operation (right rest))

theorem ofSymbol?_joining (operation : Binary) :
    Operator.ofSymbol? operation.symbol = some (.binary operation) :=
  Operator.ofSymbol?_symbol (.binary operation)

theorem word_sorts (word : String) :
    Operator.ofSymbol? word = none ∨ word = "(" ∨ word = ")" ∨ word = "not" ∨
      ∃ operation : Binary, word = operation.symbol := by
  cases named : Operator.ofSymbol? word with
  | none => exact .inl rfl
  | some op =>
    rw [← Operator.ofSymbol?_eq_some_iff.mp named]
    cases op with
    | openParen => exact .inr (.inl rfl)
    | closeParen => exact .inr (.inr (.inl rfl))
    | not => exact .inr (.inr (.inr (.inl rfl)))
    | binary operation => exact .inr (.inr (.inr (.inr ⟨operation, rfl⟩)))

theorem joins_plain (plain : Operator.ofSymbol? word = none) : joins word = false := by
  rw [joins, plain]

theorem joins_symbol (operation : Binary) : joins operation.symbol = true := by
  rw [joins, ofSymbol?_joining]

theorem completes_plain (plain : Operator.ofSymbol? word = none) : completes word = true := by
  rw [completes, plain]

theorem completes_symbol (operation : Binary) : completes operation.symbol = false := by
  rw [completes, ofSymbol?_joining]

theorem operands_plain (plain : Operator.ofSymbol? word = none) (words : List String) :
    operands (word :: words) = word :: operands words :=
  List.filter_cons_of_pos (by rw [plain]; rfl)

theorem operands_symbol (operation : Binary) (words : List String) :
    operands (operation.symbol :: words) = operands words :=
  List.filter_cons_of_neg (by rw [ofSymbol?_joining]; nofun)

/-- Operands and operators between two are no parentheses. -/
theorem ne_parenthesis (inner : Operator.ofSymbol? word = none ∨ joins word) :
    word ≠ "(" ∧ word ≠ ")" := by
  constructor <;> (rintro rfl; revert inner; decide)

/-- An operator that joins takes one more operand than stands in front of it. -/
theorem numbers_of_rest (rest : Rest ended depth words) :
    words.countP joins + 1 ≤ (operands words).length + ended.toNat := by
  induction rest with
  | done => exact Nat.le_refl 1
  | operand plain _ ih =>
    rw [List.countP_cons_of_neg (by simp [joins_plain plain]), operands_plain plain]
    exact ih
  | opening _ ih | closing _ ih | negation _ ih => exact ih
  | joining operation _ ih =>
    rw [List.countP_cons_of_pos (joins_symbol operation), operands_symbol]
    exact Nat.add_le_add_right ih 1
  | beside _ ih => exact Nat.le_succ_of_le ih

/-- What can stand in front of every expression. -/
def Opens (before : List String) : Prop := ∀ words, WellFormed words → WellFormed (before ++ words)

/-- The words since the last open parenthesis are an expression that has ended or stand in front of
one. -/
def Begun : Bool → List String → Prop
  | true => WellFormed
  | false => Opens

/-- Words behind parentheses that are still open, and behind what stands in front of each. The inner
one comes first. -/
def enclose : List (List String) → List String → List String
  | [], words => words
  | before :: outer, words => enclose outer (before ++ "(" :: words)

/-- With no operand more than the operators join, no two expressions stand side by side. -/
theorem wellFormed_enclose (rest : Rest ended depth words)
    (numbers : (operands words).length + ended.toNat = words.countP joins + 1)
    (depths : outer.length = depth) (opens : ∀ before ∈ outer, Opens before)
    (begun : Begun ended current) : WellFormed (enclose outer (current ++ words)) := by
  -- A step moves the next word from the rest to `current`, and a parenthesis pushes or pops `outer`.
  induction rest generalizing outer current with
  | done =>
    obtain rfl : outer = [] := List.eq_nil_of_length_eq_zero depths
    rw [List.append_nil]
    exact begun
  | operand plain _ ih =>
    rw [List.countP_cons_of_neg (by simp [joins_plain plain]), operands_plain plain] at numbers
    rw [List.append_cons]
    exact ih numbers depths opens (begun _ (.operand plain))
  | @opening _ words _ ih =>
    have inside : WellFormed (enclose (current :: outer) ([] ++ words)) :=
      ih numbers (congrArg (· + 1) depths) (List.forall_mem_cons.mpr ⟨begun, opens⟩)
        fun _ expression => expression
    exact inside
  | closing _ ih =>
    obtain ⟨before, outer, rfl⟩ := List.exists_cons_of_length_eq_add_one depths
    obtain ⟨front, opens⟩ := List.forall_mem_cons.mp opens
    have closed := ih numbers (by simpa using depths) opens (front _ (.group begun))
    simpa [enclose] using closed
  | negation _ ih =>
    rw [List.append_cons]
    refine ih numbers depths opens fun words expression => ?_
    rw [← List.append_cons]
    exact begun _ (.negation expression)
  | joining operation _ ih =>
    rw [List.countP_cons_of_pos (joins_symbol operation), operands_symbol] at numbers
    rw [List.append_cons]
    refine ih (Nat.add_right_cancel numbers) depths opens fun words expression => ?_
    rw [← List.append_cons]
    exact .joined operation begun expression
  | beside rest _ =>
    -- The next expression has operands enough by itself, so the one that has ended is too many.
    have enough := numbers_of_rest rest
    simp only [Bool.toNat_true, Bool.toNat_false] at numbers enough
    omega

/-- At some depth, no parenthesis is closed that is not open, and at the end none is left open. -/
structure Closes (depth : Nat) (words : List String) : Prop where
  before : ∀ before, before <+: words → before.count ")" ≤ before.count "(" + depth
  all : words.count ")" = words.count "(" + depth

theorem count_first (mark word : String) (words : List String) :
    (word :: words).count mark = [word].count mark + words.count mark := by
  rw [← List.count_append, List.singleton_append]

/-- The first word leads to another depth. -/
theorem closes_cons (depths : depth + [word].count "(" = next + [word].count ")") :
    Closes depth (word :: words) ↔ Closes next words := by
  constructor
  · rintro ⟨before, all⟩
    refine ⟨fun beginning shorter => ?_, ?_⟩
    · have closed := before (word :: beginning) ((List.prefix_cons_inj word).mpr shorter)
      rw [count_first, count_first "("] at closed
      omega
    · rw [count_first, count_first "("] at all
      omega
  · rintro ⟨before, all⟩
    refine ⟨fun beginning shorter => ?_, ?_⟩
    · rcases List.prefix_cons_iff.mp shorter with rfl | ⟨inner, rfl, within⟩
      · simp
      · have closed := before inner within
        rw [count_first, count_first "("]
        omega
    · rw [count_first, count_first "("]
      omega

/-- Operands and operators between two leave the depth as it is. -/
theorem closes_inner (inner : Operator.ofSymbol? word = none ∨ joins word) :
    Closes depth (word :: words) ↔ Closes depth words := by
  obtain ⟨opening, closing⟩ := ne_parenthesis inner
  exact closes_cons (by simp [opening, closing])

/-- In such places the words could go on to an expression, were it not for their numbers. -/
theorem rest_of_places (follows : (previous :: words ++ [")"]).IsChain Follows)
    (closes : Closes depth words) : Rest (completes previous) depth words := by
  induction words generalizing previous depth with
  | nil =>
    obtain rfl : depth = 0 := by simpa using closes.all.symm
    have ended : Follows previous ")" := (List.isChain_cons_cons.mp follows).1
    rw [ended (.inl rfl)]
    exact .done
  | cons word rest ih =>
    obtain ⟨behind, follows⟩ := List.isChain_cons_cons.mp follows
    have begins (begun : Rest false depth (word :: rest)) :
        Rest (completes previous) depth (word :: rest) := by
      cases completes previous with
      | true => exact .beside begun
      | false => exact begun
    rcases word_sorts word with plain | rfl | rfl | rfl | ⟨operation, rfl⟩
    · have further := ih follows ((closes_inner (.inl plain)).mp closes)
      rw [completes_plain plain] at further
      exact begins (.operand plain further)
    · exact begins (.opening (ih follows ((closes_cons rfl).mp closes)))
    · have closed : 1 ≤ depth := by simpa using closes.before [")"] (by simp)
      obtain ⟨outside, rfl⟩ := Nat.exists_eq_add_of_le' closed
      rw [behind (.inl rfl)]
      exact .closing (ih follows ((closes_cons rfl).mp closes))
    · exact begins (.negation (ih follows ((closes_cons rfl).mp closes)))
    · have further := ih follows ((closes_inner (.inr (joins_symbol operation))).mp closes)
      rw [completes_symbol] at further
      rw [behind (.inr (joins_symbol operation))]
      exact .joining operation further

/-- The other direction. Where two expressions stand side by side, no word finds a wrong one in front. -/
theorem places_of_rest (rest : Rest ended depth words) :
    (∀ previous, (ended → completes previous) →
        (previous :: words ++ [")"]).IsChain Follows) ∧ Closes depth words := by
  have begins {word : String} (other : word ≠ ")") (apart : joins word = false)
      (previous : String) : Follows previous word := by
    rintro (closing | joining)
    · exact absurd closing other
    · rw [apart] at joining
      cases joining
  induction rest with
  | done =>
    refine ⟨fun previous completed => ?_, ⟨by simp, rfl⟩⟩
    exact List.isChain_cons_cons.mpr ⟨fun _ => completed rfl, .singleton _⟩
  | operand plain _ ih =>
    obtain ⟨follows, closes⟩ := ih
    refine ⟨fun previous _ => ?_, (closes_inner (.inl plain)).mpr closes⟩
    have front : Follows previous _ :=
      begins (ne_parenthesis (.inl plain)).2 (joins_plain plain) previous
    exact List.isChain_cons_cons.mpr ⟨front, follows _ fun _ => completes_plain plain⟩
  | opening _ ih =>
    obtain ⟨follows, closes⟩ := ih
    refine ⟨fun previous _ => ?_, (closes_cons rfl).mpr closes⟩
    exact List.isChain_cons_cons.mpr ⟨begins (by decide) rfl previous, follows _ nofun⟩
  | closing _ ih =>
    obtain ⟨follows, closes⟩ := ih
    refine ⟨fun previous completed => ?_, (closes_cons rfl).mpr closes⟩
    exact List.isChain_cons_cons.mpr ⟨fun _ => completed rfl, follows _ fun _ => rfl⟩
  | negation _ ih =>
    obtain ⟨follows, closes⟩ := ih
    refine ⟨fun previous _ => ?_, (closes_cons rfl).mpr closes⟩
    exact List.isChain_cons_cons.mpr ⟨begins (by decide) rfl previous, follows _ nofun⟩
  | joining operation _ ih =>
    obtain ⟨follows, closes⟩ := ih
    have inner : Closes _ (operation.symbol :: _) :=
      (closes_inner (.inr (joins_symbol operation))).mpr closes
    refine ⟨fun previous completed => ?_, inner⟩
    exact List.isChain_cons_cons.mpr ⟨fun _ => completed rfl, follows _ nofun⟩
  | beside _ ih =>
    obtain ⟨follows, closes⟩ := ih
    exact ⟨fun previous _ => follows previous nofun, closes⟩

theorem inPlace_of_wellFormed (expression : WellFormed words) : InPlace words := by
  have rest : Rest false 0 (words ++ []) := rest_of_wellFormed expression .done
  rw [List.append_nil] at rest
  obtain ⟨follows, closes⟩ := places_of_rest rest
  exact ⟨follows "(" nofun, closes.before⟩

/-- Words that stand in the places of an expression are one if they have its numbers. -/
theorem wellFormed_iff_inPlace (numbers : (operands words).length = words.countP joins + 1)
    (opened : words.count "(" ≤ words.count ")") : WellFormed words ↔ InPlace words := by
  constructor
  · exact inPlace_of_wellFormed
  · rintro ⟨follows, closes⟩
    have rest : Rest false 0 words := rest_of_places follows
      ⟨closes, Nat.le_antisymm (closes words (List.prefix_refl words)) opened⟩
    have whole : WellFormed (enclose [] ([] ++ words)) :=
      wellFormed_enclose rest numbers rfl nofun fun _ expression => expression
    exact whole

/-! ### What an evaluation tells -/

variable {O : Type}

/-- A tree has one leaf more than it has operators that join. -/
theorem leaves_length (tree : OperandTrees.Tree O) :
    tree.leaves.length = tree.operators.countP (·.arity == 2) + 1 := by
  induction tree with
  | leaf value => rfl
  | negation inside ih => exact ih
  | joined operation left right left_ih right_ih =>
    simp only [Tree.leaves, Tree.operators, List.length_append, List.countP_cons, List.countP_append,
      left_ih, right_ih]
    simp [Operator.arity]
    omega

theorem operandValues_length (host : Host O) (afterColon : Bool) (words : List String) :
    (operandValues host afterColon words).length = (operands words).length := by
  induction words generalizing afterColon with
  | nil => rfl
  | cons word rest ih =>
    rw [operandValues, operands, List.filter_cons]
    split
    · exact congrArg (· + 1) (ih _)
    · exact ih _

theorem operatorsOf_joins (words : List String) :
    (operatorsOf words).countP (·.arity == 2) = words.countP joins := by
  have joined (word : String) :
      ((Operator.ofSymbol? word).map fun op => op.arity == 2 && takesOperands op).getD false =
        joins word := by
    rw [joins]
    rcases Operator.ofSymbol? word with _ | ⟨_ | _ | _ | _⟩ <;> rfl
  rw [operatorsOf, List.countP_filter, List.countP_filterMap, funext joined]

variable [DecidableEq O] {host : Host O} {words : List String} {value : Value O}

/-- A parenthesis that was opened waits until one closes. -/
theorem opened_word {state next : Progress O}
    (ended : (Progress.word host state word).outcome = .ok next) :
    state.operators.count .openParen + [word].count "(" ≤
      next.operators.count .openParen + [word].count ")" := by
  rcases (word_cases ended).2 with ⟨op, named, took⟩ | ⟨plain, operators, -⟩
  · rw [← Operator.ofSymbol?_eq_some_iff.mp named]
    generalize state.operators = operators, state.values = values, next.operators = left,
      next.values = results at took ⊢
    cases took with
    | opened => rw [List.count_cons_self]; rfl
    | closed drained =>
      rw [← count_drain drained, List.count_cons_self]
      rfl
    | stray drained =>
      rw [← count_drain drained]
      decide
    | waits taking drained =>
      have others : ∀ op ∈ Operator.all, takesOperands op = true →
          op ≠ .openParen ∧ [op.symbol].count "(" = 0 := by decide
      obtain ⟨other, none⟩ := others op (Operator.mem_all op) taking
      rw [List.count_cons_of_ne other, count_drain drained, none]
      exact Nat.le_add_right _ _
  · obtain ⟨opening, -⟩ := ne_parenthesis (.inl plain)
    rw [operators, List.count_cons_of_ne opening]
    exact Nat.le_add_right _ _

theorem opened_run {ended : Progress O}
    (run : (words.foldlM (Progress.word host) {}).outcome = .ok ended) :
    words.count "(" ≤ words.count ")" + ended.operators.count .openParen := by
  have kept := run_induction (motive := fun rest state =>
    words.count "(" + rest.count ")" ≤
      words.count ")" + rest.count "(" + state.operators.count .openParen) ?_
    (Nat.le_of_eq (Nat.add_comm _ _)) run
  · exact kept
  · intro word rest state next opened read
    have waits := opened_word read
    rw [count_first, count_first "("] at opened
    omega

/-- The state tells whether the last word joins. -/
theorem dangling_word {state next : Progress O}
    (ended : (Progress.word host state word).outcome = .ok next) : next.dangling = joins word := by
  unfold Progress.word at ended
  split at ended
  · next op named =>
    rw [joins, named]
    cases op with
    | openParen =>
      cases ended
      rfl
    | closeParen | not | binary operation =>
      obtain ⟨_, _, rfl⟩ := ok_of_map ended
      rfl
  · next plain =>
    rw [joins, plain]
    cases ended
    rfl

theorem dangling_run {ended : Progress O}
    (run : (words.foldlM (Progress.word host) {}).outcome = .ok ended)
    (last : words.getLast? = some word) : ended.dangling = joins word := by
  obtain ⟨before, rfl⟩ := List.getLast?_eq_some_iff.mp last
  rw [List.foldlM_append] at run
  obtain ⟨state, -, run⟩ := Trace.ok_of_bind run
  obtain ⟨next, read, done⟩ := Trace.ok_of_bind run
  cases done
  exact dangling_word read

/-- What has a value need not be an expression. Every parenthesis that opens is closed, there is one
operand more than operators between two, and none of these comes last. Beyond that the words may
stand anywhere. They are an expression exactly if none of a closing parenthesis, an operator between
two and the end comes where no expression has ended, and no parenthesis is closed that is not open. -/
theorem evaluate_wellFormed_iff (host : Host O) (words : List String)
    (ended : (evaluate host words).outcome = .ok value) :
    OwnClosing words ∧ (operands words).length = words.countP joins + 1 ∧
      (∀ word ∈ words.getLast?, joins word = false) ∧ (WellFormed words ↔ InPlace words) := by
  obtain ⟨state, run, finished⟩ := Trace.ok_of_bind ended
  have drained := drain_of_finish finished
  have opened : words.count "(" ≤ words.count ")" := by
    simpa [← count_drain drained] using opened_run run
  have closing : OwnClosing words := by
    obtain ⟨waiting, partner, paired, count⟩ := enclosed_run run
    exact ownClosing_of_enclosed ⟨waiting, partner, paired, count.trans (count_drain drained).symm⟩
  have numbers : (operands words).length = words.countP joins + 1 := by
    obtain ⟨tree, leaves, operators, -⟩ :=
      tree_of_conserves (conserves_drain (conserves_run run) drained)
    rw [← operandValues_length host false, ← leaves, leaves_length, operators.countP_eq,
      operatorsOf_joins]
  refine ⟨closing, numbers, fun word last => ?_, wellFormed_iff_inPlace numbers opened⟩
  rw [← dangling_run run last]
  unfold Progress.finish at finished
  split at finished
  · cases finished
  · next clear => simpa using clear

theorem evaluate_wellFormed_iff_negated :
    let words := ["not", "(", "a", "+", "b", ")", "=", "c"]
    (evaluate (contextFree noObjects) words).outcome = .ok (.int 0) ∧
      OwnClosing words ∧ (operands words).length = words.countP joins + 1 ∧
        (∀ word ∈ words.getLast?, joins word = false) ∧ (WellFormed words ↔ InPlace words) := by
  intro words
  exact ⟨rfl, evaluate_wellFormed_iff (contextFree noObjects) words rfl⟩

/-- A parenthesis that closes nothing, an operator in front of both operands, parentheses around
nothing and a negation behind its operand all have a value. -/
theorem evaluate_out_of_place :
    ((evaluate (contextFree noObjects) ["1", ")"]).outcome = .ok (.str "1") ∧
      ¬WellFormed ["1", ")"]) ∧
    ((evaluate (contextFree noObjects) ["=", "a", "b"]).outcome = .ok (.int 0) ∧
      ¬WellFormed ["=", "a", "b"]) ∧
    ((evaluate (contextFree noObjects) ["a", "(", ")"]).outcome = .ok (.str "a") ∧
      ¬WellFormed ["a", "(", ")"]) ∧
    (evaluate (contextFree noObjects) ["a", "not"]).outcome = .ok (.int 0) ∧
      ¬WellFormed ["a", "not"] := by
  refine ⟨⟨rfl, fun expression => ?_⟩, ⟨rfl, fun expression => ?_⟩, ⟨rfl, fun expression => ?_⟩,
    rfl, fun expression => ?_⟩
  · exact absurd ((inPlace_of_wellFormed expression).closes _ (List.prefix_refl _)) (by decide)
  all_goals exact absurd (inPlace_of_wellFormed expression).follows (by decide)

end ChatTemplate.WordOrder
