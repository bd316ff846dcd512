import ChatTemplate.Proofs.TermGrammar

/-! The evaluator with its two stacks computes the meaning of the syntax tree. Waiting operators are
settled later than a tree would apply them, but no operand is read in between, so values, faults
and questions to the host agree in their order as well. -/
namespace ChatTemplate.TermEvaluation
open Expression TermGrammar

variable {O : Type} [DecidableEq O] {host : Host O} {objects : Objects O}

/-- The least precedence of the operators in a phrase of a level. -/
def strength : Level → Int
  | .comparison => 0
  | .sum => 10
  | .product => 20
  | .power => 30
  | .access => 40
  | .primary => 50

/-- The operators that are applied before anything but a phrase of the level goes on. -/
def due (level : Level) (waiting : Operator) : Bool :=
  waiting != .openParen && strength level ≤ waiting.precedence

/-- Whatever waits belongs to a weaker level or lies behind an open parenthesis. -/
def Rests (level : Level) (operators : List Operator) : Prop :=
  ∀ op ∈ operators.head?, due level op = false

/-- The state once the waiting operators of a level are applied. -/
def settle (objects : Objects O) (due : Operator → Bool) (state : Progress O) :
    Except Fault (Progress O) :=
  (drain objects due state.operators state.values).map fun left =>
    { state with operators := left.1, values := left.2 }

private theorem due_of_tighter (level : Level) (op : Operator)
    (waits : due level.tighter op = true) : due level op = true := by
  simp only [due, Bool.and_eq_true, decide_eq_true_eq] at waits ⊢
  have weaker : strength level ≤ strength level.tighter := by cases level <;> decide
  exact ⟨waits.1, Int.le_trans weaker waits.2⟩

private theorem rests_tighter (rests : Rests level operators) : Rests level.tighter operators := by
  intro op top
  have weaker := rests op top
  cases waits : due level.tighter op with
  | false => rfl
  | true => rw [due_of_tighter level op waits] at weaker; cases weaker

/-- Applying the stronger operators first changes nothing. -/
theorem drain_drain {first second : Operator → Bool}
    (within : ∀ op, first op = true → second op = true) (operators : List Operator)
    (values : List (Value O)) :
    drain objects second operators values =
      drain objects first operators values >>= fun left => drain objects second left.1 left.2 := by
  induction operators generalizing values with
  | nil => rfl
  | cons op below ih =>
    by_cases waits : first op = true
    · simp only [drain, waits, within op waits, ↓reduceIte]
      cases applyTop objects op values with
      | error fault => rfl
      | ok reduced => exact ih reduced
    · simp only [drain, waits, Bool.false_eq_true, ↓reduceIte]
      rfl

theorem settle_settle {first second : Operator → Bool}
    (within : ∀ op, first op = true → second op = true) (state : Progress O) :
    settle objects second state = settle objects first state >>= settle objects second := by
  simp only [settle]
  rw [drain_drain within]
  cases drain objects first state.operators state.values <;> rfl

theorem settle_rests (state : Progress O) (rests : Rests level state.operators) :
    settle objects (due level) state = .ok state := by
  obtain ⟨operators, values, dangling, afterAttribute⟩ := state
  cases operators with
  | nil => rfl
  | cons op below => simp [settle, drain, rests op rfl, Except.map]

/-- The state with one more value, an operand having just been read. -/
def push (value : Value O) (state : Progress O) : Progress O :=
  ⟨state.operators, value :: state.values, false, false⟩

/-- The state with one more waiting operator, which has just been read. -/
def await (op : Operator) (state : Progress O) : Progress O :=
  ⟨op :: state.operators, state.values, !op.isUnary, op == .binary .attribute⟩

/-- The state behind an opening parenthesis. -/
def opened (state : Progress O) : Progress O :=
  ⟨.openParen :: state.operators, state.values, false, false⟩

theorem settle_push (rests : Rests level state.operators) (value : Value O) :
    settle objects (due level) (push value state) = .ok (push value state) :=
  settle_rests (push value state) rests

/-- A waiting operator finds its operands on top and leaves its value in their place. -/
theorem settle_waiting (operands : List (Value O)) (waits : due level op = true)
    (count : operands.length = op.arity) (rests : Rests level state.operators) :
    Traced.ofExcept (settle objects (due level)
        ⟨op :: state.operators, operands.reverse ++ state.values, false, false⟩) =
      Traced.ofExcept (op.apply objects operands) >>= fun value => pure (push value state) := by
  have enough : ¬ (operands.reverse ++ state.values).length < op.arity := by simp [count]
  have top : applyTop objects op (operands.reverse ++ state.values) =
      (op.apply objects operands).map (· :: state.values) := by
    rw [applyTop, if_neg enough, ← count, ← List.length_reverse, List.take_left, List.drop_left,
      List.reverse_reverse]
  simp only [settle, drain, waits, top, ↓reduceIte]
  cases op.apply objects operands with
  | error fault => rfl
  | ok value => exact congrArg Traced.ofExcept (settle_push rests value)

/-- The operators of a level are written as the table of symbols has them. They bind as strongly as
their level does and more weakly than the next. -/
theorem operators_listed {level : Level} (listed : (symbol, op) ∈ level.operators) :
    Operator.ofSymbol? symbol = some (.binary op) ∧
      (Operator.binary op).precedence = strength level ∧ strength level < strength level.tighter := by
  have table : ∀ entry ∈ level.operators, Operator.ofSymbol? entry.1 = some (.binary entry.2) ∧
      (Operator.binary entry.2).precedence = strength level ∧
        strength level < strength level.tighter := by
    cases level <;> decide
  exact table (symbol, op) listed

theorem ofSymbol?_plain (plain : word ∉ reserved) : Operator.ofSymbol? word = none := by
  cases found : Operator.ofSymbol? word with
  | none => rfl
  | some op =>
    rw [Operator.ofSymbol?_eq_some_iff] at found
    have symbols : ∀ op ∈ Operator.all, op.symbol ∈ reserved := by decide
    exact absurd (found ▸ symbols op (Operator.mem_all op)) plain

theorem word_operand (plain : word ∉ reserved) (state : Progress O) :
    Progress.word host state word =
      (Term.operand word).evaluate host state.afterAttribute >>= fun value =>
        pure (push value state) := by
  simp only [Progress.word, ofSymbol?_plain plain]
  rfl

/-- An operator settles its own level and then waits. -/
theorem word_operator (spelled : Operator.ofSymbol? word = some op)
    (binds : op.precedence = strength level) (taking : op.arity ≠ 0) (state : Progress O) :
    Progress.word host state word =
      Traced.ofExcept (settle host.toObjects (due level) state) >>= fun settled =>
        pure (await op settled) := by
  have yields : yieldsTo op = due level := by
    funext waiting
    simp only [yieldsTo, due, binds]
  have pushed : state.operator host.toObjects op =
      (drain host.toObjects (yieldsTo op) state.operators state.values).map fun settled =>
        ⟨op :: settled.1, settled.2, !op.isUnary, op == .binary .attribute⟩ := by
    cases op with
    | openParen | closeParen => exact absurd rfl taking
    | not | binary => rfl
  simp only [Progress.word, spelled, pushed, yields, settle, await]
  cases drain host.toObjects (due level) state.operators state.values <;> rfl

theorem word_open (state : Progress O) :
    Progress.word host state "(" = pure (opened state) := rfl

/-- A closing parenthesis settles everything back to the open one, which goes with it. -/
theorem word_close (state : Progress O) :
    Progress.word host state ")" =
      Traced.ofExcept (settle host.toObjects (due .comparison) state) >>= fun settled =>
        Traced.ofExcept (settle host.toObjects (· != .openParen) settled) >>= fun closed =>
          pure ⟨closed.operators.drop 1, closed.values, false, false⟩ := by
  have within : ∀ op, due .comparison op = true → (op != Operator.openParen) = true := by
    intro op waits
    simp only [due, Bool.and_eq_true] at waits
    exact waits.1
  rw [← bind_assoc, ← Traced.ofExcept_bind, ← settle_settle within]
  have spelled : Operator.ofSymbol? ")" = some .closeParen := by decide
  simp only [Progress.word, spelled, Progress.operator, settle]
  cases drain host.toObjects (· != .openParen) state.operators state.values <;> rfl

/-- Reads words and settles a level. -/
def readSettled (host : Host O) (level : Level) (wording : List String) (state : Progress O) :
    Traced (Progress O) :=
  wording.foldlM (Progress.word host) state >>= fun read =>
    Traced.ofExcept (settle host.toObjects (due level) read)

theorem readSettled_settle (wording : List String) (state : Progress O) :
    readSettled host level wording state =
      readSettled host level.tighter wording state >>= fun read =>
        Traced.ofExcept (settle host.toObjects (due level) read) := by
  simp only [readSettled, bind_assoc, ← Traced.ofExcept_bind,
    ← settle_settle (due_of_tighter level)]

theorem readSettled_operator (spelled : Operator.ofSymbol? word = some op)
    (binds : op.precedence = strength level) (taking : op.arity ≠ 0) (before after : List String)
    (state : Progress O) :
    readSettled host level (before ++ word :: after) state =
      readSettled host level before state >>= fun read =>
        readSettled host level after (await op read) := by
  simp only [readSettled, List.foldlM_append, List.foldlM_cons, bind_assoc, pure_bind,
    word_operator spelled binds taking]

theorem readSettled_group (wording : List String) (state : Progress O) :
    readSettled host .primary ("(" :: wording ++ [")"]) state =
      readSettled host .comparison wording (opened state) >>= fun read =>
        Traced.ofExcept (settle host.toObjects (· != .openParen) read) >>= fun closed =>
          Traced.ofExcept (settle host.toObjects (due .primary)
            ⟨closed.operators.drop 1, closed.values, false, false⟩) := by
  simp only [readSettled, List.cons_append, List.foldlM_cons, List.foldlM_append, List.foldlM_nil,
    bind_pure, word_open, word_close, bind_assoc, pure_bind]

/-- Reading a phrase and settling its level leaves the value of its tree on top of what was there,
provided that nothing of its level waits before it. -/
theorem read_phrase (phrase : Phrase level wording term) (state : Progress O)
    (rests : Rests level state.operators) :
    readSettled host level wording state =
      term.evaluate host state.afterAttribute >>= fun value => pure (push value state) := by
  induction phrase generalizing state with
  | operand plain =>
    simp only [readSettled, List.foldlM_cons, List.foldlM_nil, bind_pure, word_operand plain,
      bind_assoc, pure_bind, settle_push rests, Traced.ofExcept_ok]
  | @group wording inside within ih =>
    have behind : Rests .comparison (opened state).operators := by
      rintro op ⟨⟩
      rfl
    have stops (value : Value O) :
        settle host.toObjects (· != .openParen) (push value (opened state)) =
          .ok (push value (opened state)) := rfl
    calc readSettled host .primary ("(" :: wording ++ [")"]) state
      _ = inside.evaluate host false >>= fun value =>
          Traced.ofExcept (settle host.toObjects (due .primary) (push value state)) := by
        rw [readSettled_group, ih _ behind]
        simp only [bind_assoc, pure_bind, stops, Traced.ofExcept_ok]
        rfl
      _ = inside.evaluate host false >>= fun value => pure (push value state) := by
        simp only [settle_push rests, Traced.ofExcept_ok]
  | @negation wording inside within ih =>
    have spelled : Operator.ofSymbol? "not" = some .not := by decide
    have nothing : readSettled host .power [] state = pure state := by
      simp only [readSettled, List.foldlM_nil, pure_bind, settle_rests state rests,
        Traced.ofExcept_ok]
    have behind : Rests .access (await .not state).operators := by
      rintro op ⟨⟩
      rfl
    calc readSettled host .power ("not" :: wording) state
      _ = readSettled host .power wording (await .not state) := by
        have split : readSettled host .power ([] ++ "not" :: wording) state = _ :=
          readSettled_operator spelled rfl (by decide) [] wording state
        rwa [nothing, pure_bind] at split
      _ = inside.evaluate host false >>= fun value =>
          Traced.ofExcept (settle host.toObjects (due .power) (push value (await .not state))) := by
        rw [readSettled_settle, Level.tighter, ih _ behind]
        simp only [bind_assoc, pure_bind]
        rfl
      _ = inside.evaluate host false >>= fun value =>
          Traced.ofExcept (Operator.not.apply host.toObjects [value]) >>= fun negated =>
            pure (push negated state) :=
        bind_congr fun value => settle_waiting [value] rfl rfl rests
      _ = (Term.negation inside).evaluate host state.afterAttribute >>= fun negated =>
          pure (push negated state) := by
        simp only [Term.evaluate, bind_assoc]
  | @joined symbol op level before left after right listed first second ihLeft ihRight =>
    obtain ⟨spelled, binds, weaker⟩ := operators_listed listed
    have colon : (Operator.binary op == .binary .attribute) = (op == .attribute) := by
      rw [Bool.eq_iff_iff]
      simp
    have waits : due level (.binary op) = true := by simp [due, binds]
    have behind (state : Progress O) : Rests level.tighter (await (.binary op) state).operators := by
      rintro op ⟨⟩
      simp [due, binds, weaker]
    calc readSettled host level (before ++ symbol :: after) state
      _ = left.evaluate host state.afterAttribute >>= fun first =>
          readSettled host level after (await (.binary op) (push first state)) := by
        rw [readSettled_operator spelled binds (by simp [Operator.arity]), ihLeft state rests]
        simp only [bind_assoc, pure_bind]
      _ = left.evaluate host state.afterAttribute >>= fun first =>
          right.evaluate host (op == .attribute) >>= fun second =>
            Traced.ofExcept (settle host.toObjects (due level)
              (push second (await (.binary op) (push first state)))) := by
        refine bind_congr fun first => ?_
        rw [readSettled_settle, ihRight _ (behind _)]
        simp only [bind_assoc, pure_bind, await, colon]
      _ = left.evaluate host state.afterAttribute >>= fun first =>
          right.evaluate host (op == .attribute) >>= fun second =>
            Traced.ofExcept ((Operator.binary op).apply host.toObjects [first, second]) >>=
              fun joined => pure (push joined state) :=
        bind_congr fun first => bind_congr fun second => settle_waiting [first, second] waits rfl rests
      _ = (Term.joined op left right).evaluate host state.afterAttribute >>= fun joined =>
          pure (push joined state) := by
        simp only [Term.evaluate, bind_assoc]
  | tighter within ih =>
    rw [readSettled_settle, ih state (rests_tighter rests)]
    simp only [bind_assoc, pure_bind, settle_push rests, Traced.ofExcept_ok]

/-- A phrase ends with an operand or a closing parenthesis, so nothing dangles after it. -/
theorem read_ends (phrase : Phrase level wording term) (state : Progress O) :
    wording.foldlM (Progress.word host) state =
      wording.foldlM (Progress.word host) state >>= fun read =>
        pure { read with dangling := false } := by
  induction phrase generalizing state with
  | operand plain =>
    simp only [List.foldlM_cons, List.foldlM_nil, bind_pure, word_operand plain, bind_assoc,
      pure_bind, push]
  | group within =>
    simp only [List.cons_append, List.foldlM_cons, List.foldlM_append, List.foldlM_nil, bind_pure,
      word_close, bind_assoc, pure_bind]
  | negation within ih =>
    simp only [List.foldlM_cons, bind_assoc]
    exact bind_congr ih
  | joined listed first second ihLeft ihRight =>
    simp only [List.foldlM_append, List.foldlM_cons, bind_assoc]
    exact bind_congr fun read => bind_congr ihRight
  | tighter within ih => exact ih state

theorem finish_settle (state : Progress O) :
    Progress.finish objects { state with dangling := false } =
      settle objects (due .comparison) state >>= fun settled =>
        Progress.finish objects { settled with dangling := false } := by
  simp only [Progress.finish, settle, Bool.false_eq_true, ↓reduceIte]
  rw [@drain_drain O _ objects (due .comparison) (fun _ => true) fun _ _ => rfl]
  cases drain objects (due .comparison) state.operators state.values <;> rfl

/-- The stack evaluator agrees with the syntax tree of every expression: the same value or the same
first fault, and the same words looked up in the same order. -/
theorem evaluate_phrase (phrase : Phrase .comparison wording term) (host : Host O) :
    evaluate host wording = term.evaluate host false := by
  have nothing : Rests .comparison ({} : Progress O).operators := nofun
  calc evaluate host wording
    _ = wording.foldlM (Progress.word host) {} >>= fun read =>
        Traced.ofExcept (Progress.finish host.toObjects { read with dangling := false }) := by
      rw [evaluate, read_ends phrase]
      simp only [bind_assoc, pure_bind]
    _ = readSettled host .comparison wording {} >>= fun read =>
        Traced.ofExcept (Progress.finish host.toObjects { read with dangling := false }) := by
      rw [readSettled, bind_assoc]
      refine bind_congr fun read => ?_
      rw [finish_settle, Traced.ofExcept_bind]
    _ = term.evaluate host false >>= fun value =>
        Traced.ofExcept (Progress.finish host.toObjects (push value {})) := by
      rw [read_phrase phrase {} nothing]
      simp only [bind_assoc, pure_bind, push]
    _ = term.evaluate host false := bind_pure _

/-- The attribute is read from a sum of two texts, which fails after all four operands were looked
up and before the comparison. -/
theorem evaluate_phrase_negation_attribute :
    let wording := ["not", "a", "=", "(", "b", "+", "c", ")", ":", "name"]
    let term := Term.joined .equal (.negation (.operand "a"))
      (.joined .attribute
        (.group (.joined (.arithmetic .plus) (.operand "b") (.operand "c"))) (.operand "name"))
    Phrase .comparison wording term ∧
      evaluate (contextFree noObjects) wording = term.evaluate (contextFree noObjects) false ∧
      evaluate (contextFree noObjects) wording =
        ⟨["a", "b", "c", "name"].map .resolve, .error (.invalidAttribute "name")⟩ := by
  intro wording term
  have operand (word : String) (plain : word ∉ reserved) : Phrase .access [word] (.operand word) :=
    .tighter (.operand plain)
  have sum := @Phrase.joined "+" (.arithmetic .plus) .sum _ _ _ _ (by decide)
    (.tighter (.tighter (.tighter (operand "b" (by decide)))))
    (.tighter (.tighter (operand "c" (by decide))))
  have access := @Phrase.joined ":" .attribute .access _ _ _ _ (by decide)
    (.tighter (.group (.tighter sum))) (@Phrase.operand "name" (by decide))
  have phrase : Phrase .comparison wording term :=
    @Phrase.joined "=" .equal .comparison _ _ _ _ (by decide)
      (.tighter (.tighter (.tighter (.negation (operand "a" (by decide))))))
      (.tighter (.tighter (.tighter access)))
  exact ⟨phrase, evaluate_phrase phrase _, (evaluate_phrase phrase _).trans rfl⟩

end ChatTemplate.TermEvaluation
