import Mathlib.Data.List.Perm.Basic
import Mathlib.Logic.Function.Basic
import ChatTemplate.Expression.Evaluate

/-! What the evaluator does with words in any order, be they an expression or not. If it ends with a
value, every operand was looked up once and became one leaf of a tree, every operator became one
node of the tree with as many parts as it takes, and the tree has that value. At any word before, the
stack holds the values of several such trees, and the operators that still wait belong to none. -/
namespace ChatTemplate.OperandTrees
open Expression
open scoped List

variable {O : Type}

/-- Operators over the values of their operands. -/
inductive Tree (O : Type) where
  | leaf (value : Value O)
  | negation (inside : Tree O)
  | joined (operation : Binary) (left right : Tree O)

/-- The operands from left to right. -/
def Tree.leaves : Tree O → List (Value O)
  | .leaf value => [value]
  | .negation inside => inside.leaves
  | .joined _ left right => left.leaves ++ right.leaves

def Tree.operators : Tree O → List Operator
  | .leaf _ => []
  | .negation inside => .not :: inside.operators
  | .joined operation left right => .binary operation :: (left.operators ++ right.operators)

/-- Applies the operators from the leaves up. -/
def Tree.apply [DecidableEq O] (objects : Objects O) : Tree O → Except Fault (Value O)
  | .leaf value => .ok value
  | .negation inside => do
    let operand ← inside.apply objects
    Operator.not.apply objects [operand]
  | .joined operation left right => do
    let first ← left.apply objects
    let second ← right.apply objects
    (Operator.binary operation).apply objects [first, second]

/-- The words that are no operators. -/
def operands (words : List String) : List String :=
  words.filter fun word => (Operator.ofSymbol? word).isNone

/-- Everything but the parentheses. -/
def takesOperands (op : Operator) : Bool := op.arity != 0

/-- The operators among some words, without the parentheses. -/
def operatorsOf (words : List String) : List Operator :=
  (words.filterMap Operator.ofSymbol?).filter takesOperands

/-- The values of the operands among some words. What names nothing is an attribute name right behind
a colon and null everywhere else. -/
def operandValues (host : Host O) : Bool → List String → List (Value O)
  | _, [] => []
  | afterColon, word :: rest =>
    let behind := operandValues host (word == ":") rest
    if (Operator.ofSymbol? word).isNone then
      (host.resolve? word).getD (if afterColon then .str word else .null) :: behind
    else behind

/-- Every opening parenthesis has a closing one behind it that no other has. -/
def OwnClosing (words : List String) : Prop :=
  ∃ partner : Nat → Nat,
    (∀ i, words[i]? = some "(" → i < partner i ∧ words[partner i]? = some ")") ∧
      ∀ i j, words[i]? = some "(" → words[j]? = some "(" → partner i = partner j → i = j

theorem operandValues_cons (host : Host O) (afterColon : Bool) (word : String) (rest : List String) :
    operandValues host afterColon (word :: rest) =
      operandValues host afterColon [word] ++ operandValues host (word == ":") rest := by
  simp only [operandValues]
  split <;> rfl

theorem operatorsOf_cons (word : String) (rest : List String) :
    operatorsOf (word :: rest) = operatorsOf [word] ++ operatorsOf rest := by
  rw [← List.singleton_append, operatorsOf, List.filterMap_append, List.filter_append]
  rfl

variable [DecidableEq O] {objects : Objects O} {host : Host O} {words : List String}

/-- What applying an operator does to the values: it takes its operands from the top and leaves its
result there. -/
inductive Applied (objects : Objects O) : Operator → List (Value O) → List (Value O) → Prop where
  | negation (result : Operator.not.apply objects [operand] = .ok value) :
      Applied objects .not (operand :: rest) (value :: rest)
  | joined (result : (Operator.binary operation).apply objects [left, right] = .ok value) :
      Applied objects (.binary operation) (right :: left :: rest) (value :: rest)

/-- Parentheses are never applied. -/
theorem applied_of_applyTop (ended : applyTop objects op values = .ok results) :
    Applied objects op values results := by
  unfold applyTop at ended
  split at ended
  · cases ended
  · next enough =>
    obtain ⟨value, result, rfl⟩ := ok_of_map ended
    cases op with
    | openParen | closeParen => cases result
    | not =>
      rcases values with _ | ⟨operand, rest⟩
      · simp [Operator.arity] at enough
      · exact .negation result
    | binary operation =>
      rcases values with _ | ⟨right, _ | ⟨left, rest⟩⟩
      · simp [Operator.arity] at enough
      · simp [Operator.arity] at enough
      · exact .joined result

/-- What holds of the stacks and is kept by applying an operator holds after a drain. -/
theorem drain_induction {due : Operator → Bool} {motive : List Operator → List (Value O) → Prop}
    (step : ∀ op below values results, motive (op :: below) values →
      Applied objects op values results → motive below results)
    (start : motive operators values)
    (ended : drain objects due operators values = .ok (left, results)) : motive left results := by
  induction operators generalizing values with
  | nil =>
    cases ended
    exact start
  | cons op below ih =>
    unfold drain at ended
    split at ended
    · split at ended
      · next reduced applied =>
        exact ih (step op below values reduced start (applied_of_applyTop applied)) ended
      · cases ended
    · cases ended
      exact start

/-- A drain stops at an operator that is not due, or at the bottom. -/
theorem drain_stops {due : Operator → Bool}
    (ended : drain objects due operators values = .ok (left, results)) :
    ∀ op ∈ left.head?, due op = false := by
  induction operators generalizing values with
  | nil =>
    cases ended
    exact nofun
  | cons op below ih =>
    unfold drain at ended
    split at ended
    · split at ended
      · exact ih ended
      · cases ended
    · next waits =>
      cases ended
      simpa using waits

/-- The values on a stack are those of trees. From the bottom of the stack to its top, these are
their leaves and their operators. -/
inductive Grown (objects : Objects O) : List (Value O) → List Operator → List (Value O) → Prop where
  | nil : Grown objects [] [] []
  | cons (tree : Tree O) (below : Grown objects leaves settled values)
      (applied : tree.apply objects = .ok value) :
      Grown objects (leaves ++ tree.leaves) (settled ++ tree.operators) (value :: values)

/-- The trees on the stack have the operands read so far as their leaves, and the operators read so
far are in the trees or wait. -/
def Conserves (objects : Objects O) (leaves : List (Value O)) (seen : List Operator)
    (operators : List Operator) (values : List (Value O)) : Prop :=
  ∃ settled, Grown objects leaves settled values ∧
    settled ++ operators.filter takesOperands ~ seen

/-- An operator leaves those that wait and becomes the root of a tree. -/
private theorem root_perm (op : Operator) (before inner waiting : List Operator) :
    before ++ op :: inner ++ waiting ~ before ++ inner ++ op :: waiting := by
  calc before ++ op :: inner ++ waiting
    _ = before ++ op :: (inner ++ waiting) := by simp
    _ ~ op :: (before ++ (inner ++ waiting)) := List.perm_middle
    _ = op :: (before ++ inner ++ waiting) := by simp
    _ ~ before ++ inner ++ op :: waiting := List.perm_middle.symm

/-- An operator that is applied joins the trees of its operands. -/
theorem conserves_applied (conserves : Conserves objects leaves seen (op :: below) values)
    (applied : Applied objects op values results) :
    Conserves objects leaves seen below results := by
  obtain ⟨settled, grown, order⟩ := conserves
  cases applied with
  | @negation operand value rest result =>
    cases grown with
    | cons tree grown evaluated =>
      have evaluated : (Tree.negation tree).apply objects = .ok value := by
        rw [Tree.apply, evaluated]
        exact result
      exact ⟨_, .cons (.negation tree) grown evaluated, (root_perm _ _ _ _).trans order⟩
  | @joined operation left right value rest result =>
    cases grown with
    | cons second grown after =>
      cases grown with
      | @cons leaves settled _ _ first grown before =>
        have evaluated : (Tree.joined operation first second).apply objects = .ok value := by
          rw [Tree.apply, before, after]
          exact result
        rw [List.append_assoc settled] at order
        rw [List.append_assoc leaves]
        exact ⟨_, .cons (.joined operation first second) grown evaluated,
          (root_perm _ _ _ _).trans order⟩

theorem conserves_drain {due : Operator → Bool}
    (conserves : Conserves objects leaves seen operators values)
    (ended : drain objects due operators values = .ok (left, results)) :
    Conserves objects leaves seen left results :=
  drain_induction (motive := Conserves objects leaves seen)
    (fun _ _ _ _ conserves applied => conserves_applied conserves applied) conserves ended

/-- What reading an operator does to the two stacks. -/
inductive Took (objects : Objects O) : Operator → List Operator → List (Value O) →
    List Operator → List (Value O) → Prop where
  | opened : Took objects .openParen operators values (.openParen :: operators) values
  /-- The parenthesis closes the last one that was open. -/
  | closed (drained : drain objects due operators values = .ok (.openParen :: below, results)) :
      Took objects .closeParen operators values below results
  /-- None is open. -/
  | stray (drained : drain objects due operators values = .ok ([], results)) :
      Took objects .closeParen operators values [] results
  | waits (taking : takesOperands op = true)
      (drained : drain objects due operators values = .ok (left, results)) :
      Took objects op operators values (op :: left) results

theorem took_of_operator {state next : Progress O} (ended : state.operator objects op = .ok next) :
    Took objects op state.operators state.values next.operators next.values ∧
      next.afterAttribute = (op == .binary .attribute) := by
  cases op with
  | openParen =>
    cases ended
    exact ⟨.opened, rfl⟩
  | closeParen =>
    obtain ⟨⟨left, results⟩, drained, rfl⟩ := ok_of_map ended
    cases left with
    | nil => exact ⟨.stray drained, rfl⟩
    | cons top below =>
      obtain rfl : top = .openParen := by simpa using drain_stops drained top rfl
      exact ⟨.closed drained, rfl⟩
  | not | binary operation =>
    obtain ⟨⟨left, results⟩, drained, rfl⟩ := ok_of_map ended
    exact ⟨.waits rfl drained, rfl⟩

theorem conserves_took (conserves : Conserves objects leaves seen operators values)
    (took : Took objects op operators values left results) :
    Conserves objects leaves (seen ++ [op].filter takesOperands) left results := by
  cases took with
  | opened => simpa [Conserves, takesOperands, Operator.arity] using conserves
  | closed drained =>
    have kept := conserves_drain conserves drained
    simpa [Conserves, takesOperands, Operator.arity] using kept
  | stray drained =>
    have kept := conserves_drain conserves drained
    simpa [Conserves, takesOperands, Operator.arity] using kept
  | waits taking drained =>
    obtain ⟨settled, grown, order⟩ := conserves_drain conserves drained
    refine ⟨settled, grown, ?_⟩
    simp only [List.filter_cons, taking, if_true, List.filter_nil]
    exact List.perm_middle.trans ((order.cons op).trans (List.perm_append_singleton op seen).symm)

/-- An operand that is read is a tree of its own. -/
theorem conserves_push (conserves : Conserves objects leaves seen operators values)
    (value : Value O) : Conserves objects (leaves ++ [value]) seen operators (value :: values) := by
  obtain ⟨settled, grown, order⟩ := conserves
  exact ⟨settled ++ [], .cons (.leaf value) grown rfl, by rwa [List.append_nil]⟩

/-- What reading a word does: an operator changes the stacks, and an operand comes on top. -/
theorem word_cases {state next : Progress O}
    (ended : (Progress.word host state word).outcome = .ok next) :
    next.afterAttribute = (word == ":") ∧
      ((∃ op, Operator.ofSymbol? word = some op ∧
        Took host.toObjects op state.operators state.values next.operators next.values) ∨
      (Operator.ofSymbol? word = none ∧ next.operators = state.operators ∧
        next.values = (host.resolve? word).getD (if state.afterAttribute then .str word else .null) ::
          state.values)) := by
  unfold Progress.word at ended
  split at ended
  · next op named =>
    obtain ⟨took, colon⟩ := took_of_operator ended
    have symbols : ∀ op ∈ Operator.all, (op == .binary .attribute) = (op.symbol == ":") := by decide
    rw [symbols op (Operator.mem_all op), Operator.ofSymbol?_eq_some_iff.mp named] at colon
    exact ⟨colon, .inl ⟨op, named, took⟩⟩
  · next plain =>
    cases ended
    have other : word ≠ ":" := by
      rintro rfl
      cases plain
    exact ⟨by simpa using other, .inr ⟨plain, rfl, rfl⟩⟩

theorem conserves_word {state next : Progress O}
    (conserves : Conserves host.toObjects leaves seen state.operators state.values)
    (ended : (Progress.word host state word).outcome = .ok next) :
    Conserves host.toObjects (leaves ++ operandValues host state.afterAttribute [word])
      (seen ++ operatorsOf [word]) next.operators next.values := by
  rcases (word_cases ended).2 with ⟨op, named, took⟩ | ⟨plain, operators, values⟩
  · simpa [operandValues, operatorsOf, named] using conserves_took conserves took
  · rw [operators, values]
    simpa [operandValues, operatorsOf, plain] using conserves_push conserves _

/-- What has to do with the words still to come, and is kept by reading one of them, holds at the
end. -/
theorem run_induction {motive : List String → Progress O → Prop} {state ended : Progress O}
    (step : ∀ word rest state next, motive (word :: rest) state →
      (Progress.word host state word).outcome = .ok next → motive rest next)
    (start : motive words state)
    (run : (words.foldlM (Progress.word host) state).outcome = .ok ended) : motive [] ended := by
  induction words generalizing state with
  | nil =>
    cases run
    exact start
  | cons word rest ih =>
    rw [List.foldlM_cons] at run
    obtain ⟨next, read, run⟩ := Trace.ok_of_bind run
    exact ih (step word rest state next start read) run

/-- The operands and operators of all words are those read so far and those to come. -/
theorem conserves_run {ended : Progress O}
    (run : (words.foldlM (Progress.word host) {}).outcome = .ok ended) :
    Conserves host.toObjects (operandValues host false words) (operatorsOf words) ended.operators
      ended.values := by
  have kept := run_induction (motive := fun rest state =>
    ∃ leaves seen, Conserves host.toObjects leaves seen state.operators state.values ∧
      leaves ++ operandValues host state.afterAttribute rest = operandValues host false words ∧
      seen ++ operatorsOf rest = operatorsOf words) ?_ ⟨[], [], ⟨[], .nil, .rfl⟩, rfl, rfl⟩ run
  · obtain ⟨leaves, seen, conserves, allLeaves, allSeen⟩ := kept
    rw [operandValues, List.append_nil] at allLeaves
    rw [operatorsOf, List.filterMap_nil, List.filter_nil, List.append_nil] at allSeen
    rwa [← allLeaves, ← allSeen]
  · rintro word rest state next ⟨leaves, seen, conserves, allLeaves, allSeen⟩ read
    rw [operandValues_cons, ← List.append_assoc, ← (word_cases read).1] at allLeaves
    rw [operatorsOf_cons, ← List.append_assoc] at allSeen
    exact ⟨_, _, conserves_word conserves read, allLeaves, allSeen⟩

/-! ### Parentheses -/

/-- Every opening parenthesis but those at the places that wait has a closing one of its own behind
it. -/
structure Paired (words : List String) (waiting : List Nat) (partner : Nat → Nat) : Prop where
  behind : ∀ i, words[i]? = some "(" → i ∉ waiting → i < partner i ∧ words[partner i]? = some ")"
  own : ∀ i j, words[i]? = some "(" → words[j]? = some "(" → i ∉ waiting → j ∉ waiting →
    partner i = partner j → i = j

variable {before : List String} {i : Nat}

/-- An opening parenthesis stands at an earlier place, or it is the last word itself. -/
private theorem opening_cases (opening : (before ++ [word])[i]? = some "(") :
    before[i]? = some "(" ∨ (i = before.length ∧ word = "(") := by
  rw [List.getElem?_append] at opening
  split at opening
  · exact .inl opening
  · next past =>
    rw [List.getElem?_singleton] at opening
    split at opening
    · next last =>
      cases opening
      exact .inr ⟨by omega, rfl⟩
    · cases opening

private theorem place_lt (found : before[i]? = some word) :
    i < before.length := by
  obtain ⟨within, -⟩ := List.getElem?_eq_some_iff.mp found
  exact within

private theorem found_stays (found : before[i]? = some word)
    (last : List String) : (before ++ last)[i]? = some word := by
  rwa [List.getElem?_append_left (place_lt found)]

/-- A word waits if it opens a parenthesis. Any other changes nothing for those that are open. -/
theorem paired_open (paired : Paired before waiting partner) (word : String)
    (waits : word = "(" → before.length ∈ more) (same : waiting ⊆ more) :
    Paired (before ++ [word]) more partner := by
  have earlier : ∀ i, (before ++ [word])[i]? = some "(" → i ∉ more →
      before[i]? = some "(" ∧ i ∉ waiting := by
    intro i opening closed
    rcases opening_cases opening with found | ⟨rfl, opens⟩
    · exact ⟨found, fun member => closed (same member)⟩
    · exact absurd (waits opens) closed
  constructor
  · intro i opening closed
    obtain ⟨found, closed⟩ := earlier i opening closed
    obtain ⟨later, closing⟩ := paired.behind i found closed
    exact ⟨later, found_stays closing _⟩
  · intro i j openingI openingJ closedI closedJ
    obtain ⟨foundI, closedI⟩ := earlier i openingI closedI
    obtain ⟨foundJ, closedJ⟩ := earlier j openingJ closedJ
    exact paired.own i j foundI foundJ closedI closedJ

/-- The last parenthesis that waits is closed by the word behind. -/
theorem paired_close (paired : Paired before (place :: waiting) partner) :
    Paired (before ++ [")"]) waiting (Function.update partner place before.length) := by
  have earlier : ∀ i : Nat, (before ++ [")"])[i]? = some "(" → before[i]? = some "(" := by
    intro i opening
    rcases opening_cases opening with found | ⟨-, opens⟩
    · exact found
    · exact absurd opens (by decide)
  have kept : ∀ i : Nat, before[i]? = some "(" → i ≠ place → i ∉ waiting →
      i < partner i ∧ before[partner i]? = some ")" :=
    fun i found other closed => paired.behind i found (by simp [other, closed])
  have unused : ∀ i : Nat, before[i]? = some "(" → i ≠ place → i ∉ waiting →
      partner i ≠ before.length :=
    fun i found other closed => Nat.ne_of_lt (place_lt (kept i found other closed).2)
  constructor
  · intro i opening closed
    have found := earlier i opening
    by_cases same : i = place
    · subst same
      rw [Function.update_self]
      exact ⟨place_lt found, by simp⟩
    · rw [Function.update_of_ne same]
      obtain ⟨later, closing⟩ := kept i found same closed
      exact ⟨later, found_stays closing _⟩
  · intro i j openingI openingJ closedI closedJ partners
    have foundI := earlier i openingI
    have foundJ := earlier j openingJ
    by_cases sameI : i = place <;> by_cases sameJ : j = place
    · rw [sameI, sameJ]
    · subst sameI
      rw [Function.update_self, Function.update_of_ne sameJ] at partners
      exact absurd partners.symm (unused j foundJ sameJ closedJ)
    · subst sameJ
      rw [Function.update_self, Function.update_of_ne sameI] at partners
      exact absurd partners (unused i foundI sameI closedI)
    · rw [Function.update_of_ne sameI, Function.update_of_ne sameJ] at partners
      exact paired.own i j foundI foundJ (by simp [sameI, closedI]) (by simp [sameJ, closedJ])
        partners

/-- As many parentheses wait for their closing one as stand on the stack. -/
def Enclosed (before : List String) (operators : List Operator) : Prop :=
  ∃ waiting partner, Paired before waiting partner ∧
    waiting.length = operators.count .openParen

/-- An open parenthesis stays on the stack until a closing one takes it along. -/
theorem count_drain {due : Operator → Bool}
    (ended : drain objects due operators values = .ok (left, results)) :
    left.count .openParen = operators.count .openParen := by
  refine drain_induction
    (motive := fun left _ => left.count .openParen = operators.count .openParen) ?_ rfl ended
  rintro op below values results same applied
  rw [← same, List.count_cons_of_ne]
  cases applied <;> nofun

/-- A word that opens no parenthesis leaves those that wait. -/
private theorem enclosed_other (enclosed : Enclosed before operators) (other : word ≠ "(")
    (same : left.count .openParen = operators.count .openParen) : Enclosed (before ++ [word]) left := by
  obtain ⟨waiting, partner, paired, count⟩ := enclosed
  exact ⟨waiting, partner, paired_open paired word (fun opens => absurd opens other)
    (List.Subset.refl waiting), count.trans same.symm⟩

theorem enclosed_took (enclosed : Enclosed before operators)
    (took : Took objects op operators values left results) :
    Enclosed (before ++ [op.symbol]) left := by
  cases took with
  | opened =>
    obtain ⟨waiting, partner, paired, count⟩ := enclosed
    refine ⟨before.length :: waiting, partner, paired_open paired _ (by simp) (by simp), ?_⟩
    rw [List.length_cons, List.count_cons_self, count]
  | closed drained =>
    obtain ⟨waiting, partner, paired, count⟩ := enclosed
    rw [← count_drain drained, List.count_cons_self] at count
    obtain ⟨place, rest, rfl⟩ := List.exists_cons_of_length_eq_add_one count
    exact ⟨rest, _, paired_close paired, by simpa using count⟩
  | stray drained => exact enclosed_other enclosed (by decide) (count_drain drained)
  | waits taking drained =>
    have other : op ≠ .openParen := by
      rintro rfl
      cases taking
    have symbols : ∀ op ∈ Operator.all, op.symbol = "(" → op = .openParen := by decide
    refine enclosed_other enclosed (fun opens => other (symbols op (Operator.mem_all op) opens)) ?_
    rw [List.count_cons_of_ne other, count_drain drained]

theorem enclosed_word {state next : Progress O} (enclosed : Enclosed before state.operators)
    (ended : (Progress.word host state word).outcome = .ok next) :
    Enclosed (before ++ [word]) next.operators := by
  rcases (word_cases ended).2 with ⟨op, named, took⟩ | ⟨plain, operators, -⟩
  · rw [← Operator.ofSymbol?_eq_some_iff.mp named]
    exact enclosed_took enclosed took
  · refine enclosed_other enclosed ?_ (by rw [operators])
    rintro rfl
    cases plain

theorem enclosed_run {ended : Progress O}
    (run : (words.foldlM (Progress.word host) {}).outcome = .ok ended) :
    Enclosed words ended.operators := by
  have kept := run_induction (motive := fun rest state =>
    ∃ before, before ++ rest = words ∧ Enclosed before state.operators) ?_
    ⟨[], rfl, [], id, ⟨by simp, by simp⟩, rfl⟩ run
  · obtain ⟨before, all, enclosed⟩ := kept
    rw [List.append_nil] at all
    rwa [← all]
  · rintro word rest state next ⟨before, all, enclosed⟩ read
    exact ⟨before ++ [word], by simpa using all, enclosed_word enclosed read⟩

/-- At the end nothing waits any more, and one value remains. -/
theorem drain_of_finish {state : Progress O} (ended : state.finish objects = .ok value) :
    drain objects (fun _ => true) state.operators state.values = .ok ([], [value]) := by
  unfold Progress.finish at ended
  split at ended
  · cases ended
  · split at ended
    · cases ended
    · next left remaining drained =>
      cases ended
      cases left with
      | nil => exact drained
      | cons top below => exact absurd (drain_stops drained top rfl) (by decide)
    · cases ended

theorem ownClosing_of_enclosed (enclosed : Enclosed words []) : OwnClosing words := by
  obtain ⟨waiting, partner, paired, count⟩ := enclosed
  obtain rfl : waiting = [] := List.eq_nil_of_length_eq_zero count
  exact ⟨partner, fun i opening => paired.behind i opening List.not_mem_nil,
    fun i j openingI openingJ =>
      paired.own i j openingI openingJ List.not_mem_nil List.not_mem_nil⟩

/-- One value that remains is that of one tree. -/
theorem tree_of_conserves (conserves : Conserves objects leaves seen [] [value]) :
    ∃ tree : Tree O, tree.leaves = leaves ∧ tree.operators ~ seen ∧
      tree.apply objects = .ok value := by
  obtain ⟨settled, grown, order⟩ := conserves
  cases grown with
  | cons tree below applied =>
    cases below
    exact ⟨tree, rfl, by simpa using order, applied⟩

/-! ### Calls -/

theorem word_calls (host : Host O) (state : Progress O) (word : String) :
    (Progress.word host state word).calls = (operands [word]).map .resolve := by
  unfold Progress.word
  split
  · next op named => simp [operands, named, Traced.ofExcept]
  · next plain => simp [operands, plain, Traced.ask]

theorem operands_cons (word : String) (rest : List String) :
    operands (word :: rest) = operands [word] ++ operands rest := by
  rw [← List.singleton_append, operands, List.filter_append]
  rfl

/-- Each operand is looked up as it comes, up to the first fault. -/
theorem run_calls (host : Host O) (words : List String) (state : Progress O) :
    (words.foldlM (Progress.word host) state).calls <+: (operands words).map .resolve ∧
      ∀ ended, (words.foldlM (Progress.word host) state).outcome = .ok ended →
        (words.foldlM (Progress.word host) state).calls = (operands words).map .resolve := by
  induction words generalizing state with
  | nil => exact ⟨List.nil_prefix, fun _ _ => rfl⟩
  | cons word rest ih =>
    rw [List.foldlM_cons, operands_cons, List.map_append]
    cases read : (Progress.word host state word).outcome with
    | error fault =>
      rw [Trace.bind_error _ read, word_calls]
      exact ⟨List.prefix_append _ _, nofun⟩
    | ok next =>
      rw [Trace.bind_ok _ read, word_calls]
      obtain ⟨earlier, all⟩ := ih next
      exact ⟨(List.prefix_append_right_inj _).mpr earlier, fun ended run => by rw [all ended run]⟩

/-- The end asks for nothing. -/
theorem evaluate_calls (host : Host O) (words : List String) :
    (evaluate host words).calls = (words.foldlM (Progress.word host) {}).calls := by
  unfold evaluate
  cases run : (words.foldlM (Progress.word host) {}).outcome with
  | error fault => rw [Trace.bind_error _ run]
  | ok ended => rw [Trace.bind_ok _ run]; exact List.append_nil _

/-- No operand is dropped, used again or moved, and no operator is left over. Where the words have a
value, it is that of a tree of all operands in their order and all operators with as many parts as
they take, every opening parenthesis has a closing one, and each operand was looked up once, in order.
Where they have none, the lookups have stopped at some operand. -/
theorem evaluate_conserves (host : Host O) (words : List String) :
    (∀ value, (evaluate host words).outcome = .ok value →
      OwnClosing words ∧
      (∃ tree : Tree O, tree.leaves = operandValues host false words ∧
        tree.operators ~ operatorsOf words ∧ tree.apply host.toObjects = .ok value) ∧
      (evaluate host words).calls = (operands words).map .resolve) ∧
    ∀ fault, (evaluate host words).outcome = .error fault →
      (evaluate host words).calls <+: (operands words).map .resolve := by
  obtain ⟨earlier, all⟩ := run_calls host words {}
  rw [evaluate_calls]
  refine ⟨fun value ended => ?_, fun _ _ => earlier⟩
  obtain ⟨state, run, finished⟩ := Trace.ok_of_bind ended
  have drained := drain_of_finish finished
  have enclosed : Enclosed words [] := by
    obtain ⟨waiting, partner, paired, count⟩ := enclosed_run run
    exact ⟨waiting, partner, paired, count.trans (count_drain drained).symm⟩
  exact ⟨ownClosing_of_enclosed enclosed, tree_of_conserves (conserves_drain (conserves_run run) drained),
    all state run⟩

/-- A negation behind its operand still finds it. An addition that a closing parenthesis cuts off from
its right operand ends the lookups. -/
theorem evaluate_conserves_misplaced :
    (OwnClosing ["(", "a", "b", ")", "=", "not"] ∧
      (∃ tree : Tree Empty, tree.leaves = [.str "a", .str "b"] ∧
        tree.operators ~ [.binary .equal, .not] ∧ tree.apply noObjects = .ok (.int 0)) ∧
      (evaluate (contextFree noObjects) ["(", "a", "b", ")", "=", "not"]).calls =
        [.resolve "a", .resolve "b"]) ∧
    (evaluate (contextFree noObjects) ["a", "+", ")", "b"]).calls <+:
      [.resolve "a", .resolve "b"] :=
  ⟨(evaluate_conserves (contextFree noObjects) ["(", "a", "b", ")", "=", "not"]).1 (.int 0) rfl,
    (evaluate_conserves (contextFree noObjects) ["a", "+", ")", "b"]).2 .missingOperand rfl⟩

end ChatTemplate.OperandTrees
