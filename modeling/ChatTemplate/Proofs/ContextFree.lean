import ChatTemplate.Proofs.BranchChains
import ChatTemplate.Proofs.OperandFaults
import ChatTemplate.Proofs.OperandTrees
import ChatTemplate.Proofs.WordPrinting
import ChatTemplate.Rendering.Source

/-! Rendering without context. Every word means its own text, so there are no objects to begin with, and
no operator makes one of other values. Reading an attribute needs an object. So every colon that
comes to bear, be it an operator of a condition or part of a selected exec block, makes the whole
rendering fail, and nothing is ever tried as a command. -/
namespace ChatTemplate.ContextFree
open Expression OperandTrees BranchChains
open OperandFaults (arithmetic_cases)

variable {O : Type}

def Plain (value : Value O) : Prop := value.type ≠ .object

theorem not_readAttribute (objects : Objects O) (plain : Plain owner) (value : Value O) :
    readAttribute objects owner named ≠ .ok value := by
  cases named with
  | null | int | float | object => exact nofun
  | str name =>
    cases owner with
    | object o => exact absurd rfl plain
    | null | int | float | str =>
      dsimp only [readAttribute]
      split <;> exact nofun

theorem plain_arithmetic {left right : Value O} (ended : Arithmetic.apply operation left right = .ok value) :
    Plain value := by
  rcases arithmetic_cases operation left right with
    ⟨text, joined⟩ | ⟨n, exact⟩ | ⟨a, b, divided⟩ | unsupported
  · cases joined.symm.trans ended
    exact nofun
  · cases exact.symm.trans ended
    exact nofun
  · obtain ⟨x, -, rfl⟩ := ok_of_map (divided.symm.trans ended)
    exact nofun
  · cases unsupported.symm.trans ended

theorem plain_operandValues (objects : Objects O) (afterColon : Bool) (words : List String) :
    ∀ value ∈ operandValues (contextFree objects) afterColon words, Plain value := by
  induction words generalizing afterColon with
  | nil => exact List.forall_mem_nil _
  | cons word rest ih =>
    rw [operandValues]
    split
    · intro value member
      rcases List.mem_cons.mp member with rfl | behind
      · rintro ⟨⟩
      · exact ih _ value behind
    · exact ih _

/-- A condition that is evaluated, or an exec block that is shown. -/
inductive Visit where
  | predicate (text : String)
  | exec (text : String)
deriving DecidableEq, Repr

/-- There is a colon that reads an attribute. Inside of a quoted word of a condition it reads none. -/
def Visit.ReadsAttribute : Visit → Prop
  | .predicate text => ":" ∈ Expression.words text
  | .exec text => ':' ∈ text.toList

/-- The tokens that a visit may look up. -/
def Visit.names : Visit → List String
  | .predicate text => operands (Expression.words text)
  | .exec text =>
    match Text.cutAt? ':' text.toList with
    | none => [Text.trimmed text]
    | some (before, after) => [String.ofList (Text.trim before), String.ofList (Text.trim after)]

variable {objects : Objects O}

/-- The text before a colon is no object, so there is nothing to read behind the colon. -/
theorem colon_of_execValue (ended : (execValue (contextFree objects) text).outcome = .ok named) :
    ':' ∉ text.toList := by
  intro colon
  obtain ⟨before, after, split, clear⟩ := List.eq_append_cons_of_mem colon
  rw [execValue, split, WordPrinting.cutAt?_append clear] at ended
  obtain ⟨object, owner, ended⟩ := Trace.ok_of_bind ended
  cases owner
  obtain ⟨label, -, ended⟩ := Trace.ok_of_bind ended
  obtain ⟨value, read, -⟩ := Trace.ok_of_bind ended
  have text : Plain (.str (String.ofList (Text.trim before)) : Value O) := nofun
  exact not_readAttribute objects text value read

theorem name_of_execValue (member : call ∈ (execValue host text).calls) :
    ∃ name ∈ (Visit.exec text).names, call = .resolve name := by
  rw [execValue] at member
  rw [Visit.names]
  cases cut : Text.cutAt? ':' text.toList with
  | none =>
    rw [cut] at member
    exact ⟨_, List.mem_singleton_self _, List.mem_singleton.mp member⟩
  | some parts =>
    rw [cut] at member
    rcases Trace.call_of_bind member with first | ⟨object, -, member⟩
    · exact ⟨_, List.mem_cons_self, List.mem_singleton.mp first⟩
    · rcases Trace.call_of_bind member with second | ⟨named, -, member⟩
      · exact ⟨_, List.mem_cons_of_mem _ List.mem_cons_self, List.mem_singleton.mp second⟩
      · rcases Trace.call_of_bind member with none | ⟨value, -, none⟩ <;> cases none

variable [DecidableEq O] {words : List String}

/-- Of values that are no objects no attribute is read. -/
theorem plain_binary {left right : Value O} (plain : Plain left)
    (ended : Binary.apply objects operation left right = .ok value) :
    Plain value ∧ operation ≠ .attribute := by
  cases operation with
  | equal | is | and | or =>
    cases ended
    exact ⟨nofun, nofun⟩
  | «attribute» => exact absurd ended (not_readAttribute objects plain value)
  | arithmetic operation => exact ⟨plain_arithmetic ended, nofun⟩

/-- No operator makes an object of other values. -/
theorem plain_apply {operands : List (Value O)} (plain : ∀ operand ∈ operands, Plain operand)
    (ended : Operator.apply objects op operands = .ok value) : Plain value := by
  unfold Operator.apply at ended
  split at ended
  · cases ended
  · cases ended
  · cases ended
    exact nofun
  · exact (plain_binary (plain _ List.mem_cons_self) ended).1
  · cases ended

theorem plain_tree {tree : OperandTrees.Tree O} (leaves : ∀ leaf ∈ tree.leaves, Plain leaf)
    (ended : tree.apply objects = .ok value) :
    Plain value ∧ .binary .attribute ∉ tree.operators := by
  induction tree generalizing value with
  | leaf leaf =>
    cases ended
    exact ⟨leaves leaf List.mem_cons_self, List.not_mem_nil⟩
  | negation inside ih =>
    obtain ⟨operand, inner, ended⟩ := ok_of_bind ended
    obtain ⟨plain, absent⟩ := ih leaves inner
    refine ⟨plain_apply (by simpa using plain) ended, ?_⟩
    simpa [Tree.operators] using absent
  | joined operation left right ihLeft ihRight =>
    obtain ⟨first, evaluated, ended⟩ := ok_of_bind ended
    obtain ⟨second, inner, ended⟩ := ok_of_bind ended
    rw [Tree.leaves, List.forall_mem_append] at leaves
    obtain ⟨plain, absentLeft⟩ := ihLeft leaves.1 evaluated
    obtain ⟨-, absentRight⟩ := ihRight leaves.2 inner
    obtain ⟨result, other⟩ := plain_binary plain ended
    refine ⟨result, ?_⟩
    simp [Tree.operators, absentLeft, absentRight, Ne.symm other]

theorem plain_grown {leaves values : List (Value O)} (plain : ∀ leaf ∈ leaves, Plain leaf)
    (grown : Grown objects leaves settled values) : ∀ value ∈ values, Plain value := by
  induction grown with
  | nil => exact nofun
  | cons tree below applied ih =>
    rw [List.forall_mem_append] at plain
    exact List.forall_mem_cons.mpr ⟨(plain_tree plain.2 applied).1, ih plain.1⟩

/-- At no word of an expression is there an object on the stack. -/
theorem plain_stack {state : Progress O}
    (run : (words.foldlM (Progress.word (contextFree objects)) {}).outcome = .ok state) :
    ∀ value ∈ state.values, Plain value := by
  obtain ⟨settled, grown, -⟩ := conserves_run run
  exact plain_grown (plain_operandValues objects false words) grown

/-- An expression that has a value reads no attribute. -/
theorem colon_of_evaluate (ended : (evaluate (contextFree objects) words).outcome = .ok value) :
    ":" ∉ words := by
  obtain ⟨state, run, finished⟩ := Trace.ok_of_bind ended
  have conserves := conserves_drain (conserves_run run) (drain_of_finish finished)
  obtain ⟨tree, leaves, operators, applied⟩ := tree_of_conserves conserves
  have absent := (plain_tree (leaves ▸ plain_operandValues objects false words) applied).2
  intro colon
  refine absent (operators.mem_iff.mpr ?_)
  have named : Operator.ofSymbol? ":" = some (.binary .attribute) := by decide
  exact List.mem_filter.mpr ⟨List.mem_filterMap.mpr ⟨":", colon, named⟩, rfl⟩

/-! ### What a rendering looks at -/

/-- The branch stands in a chain behind branches that do not hold. -/
def HasTurn (host : Host O) (tokens : List Token) (branch : Branch) : Prop :=
  ∃ first followers before behind, .chain first followers ∈ groups tokens ∧
    first :: followers = before ++ branch :: behind ∧
    ∀ earlier ∈ before, (earlier.holds host).outcome = .ok false

/-- What is visited in a template: its exec blocks, the conditions of the branches that have their turn,
and all that is visited in the bodies of those that hold. -/
inductive Visits (host : Host O) : List Token → Visit → Prop where
  | exec (member : .exec text ∈ groups tokens) : Visits host tokens (.exec text)
  | predicate (turn : HasTurn host tokens branch) (asks : branch.kind ≠ .elseBranch) :
      Visits host tokens (.predicate (branch.predicate.getD ""))
  | body (turn : HasTurn host tokens branch) (holds : (branch.holds host).outcome = .ok true)
      (read : lex branch.body = .ok bodyTokens) (inside : Visits host bodyTokens visit) :
      Visits host tokens visit

/-- What is visited in a source, unless it opens no block and is shown as it stands. -/
def Considers (host : Host O) (config : Config) (source : String) (visit : Visit) : Prop :=
  (config.fastPath && !hasOpening source.toList) = false ∧
    ∃ tokens, lex source = .ok tokens ∧ Visits host tokens visit

variable {host : Host O}

theorem rendering_of_renderGroups {all : List Group}
    (ended : (renderGroups host body all).outcome = .ok shown) (member : group ∈ all) :
    ∃ part, (group.rendering host body).outcome = .ok part := by
  induction all generalizing shown with
  | nil => cases member
  | cons first rest ih =>
    rw [renderGroups] at ended
    obtain ⟨part, here, ended⟩ := Trace.ok_of_bind ended
    obtain ⟨behind, there, -⟩ := Trace.ok_of_bind ended
    rcases List.mem_cons.mp member with rfl | later
    · exact ⟨part, here⟩
    · exact ih there later

/-- In a chain that is shown the branch that has its turn holds or not, and if it holds its body is
shown. -/
theorem holds_of_selectFirst
    (ended : (selectFirst host body (before ++ branch :: behind)).outcome = .ok shown)
    (refused : ∀ earlier ∈ before, (earlier.holds host).outcome = .ok false) :
    ∃ held, (branch.holds host).outcome = .ok held ∧
      (held = true → ∃ part, (body branch.body).outcome = .ok part) := by
  induction before with
  | nil =>
    rw [List.nil_append, selectFirst] at ended
    obtain ⟨held, asked, ended⟩ := Trace.ok_of_bind ended
    refine ⟨held, asked, ?_⟩
    rintro rfl
    exact ⟨shown, ended⟩
  | cons earlier rest ih =>
    obtain ⟨first, others⟩ := List.forall_mem_cons.mp refused
    rw [List.cons_append, selectFirst, Trace.bind_ok _ first] at ended
    exact ih ended others

theorem holds_of_hasTurn (ended : (renderTokens host body false tokens).outcome = .ok shown)
    (turn : HasTurn host tokens branch) :
    ∃ held, (branch.holds host).outcome = .ok held ∧
      (held = true → ∃ part, (body branch.body).outcome = .ok part) := by
  obtain ⟨first, followers, before, behind, member, split, refused⟩ := turn
  rw [renderTokens_groups] at ended
  obtain ⟨part, rendered⟩ := rendering_of_renderGroups ended member
  rw [Group.rendering, split] at rendered
  exact holds_of_selectFirst rendered refused

theorem colon_of_holds (asks : branch.kind ≠ .elseBranch)
    (ended : (Branch.holds (contextFree objects) branch).outcome = .ok held) :
    ":" ∉ Expression.words (branch.predicate.getD "") := by
  have evaluated : (predicateHolds (contextFree objects) (branch.predicate.getD "")).outcome =
      .ok held := by
    rw [Branch.holds] at ended
    split at ended
    · exact ended
    · exact ended
    · next fallback => exact absurd fallback asks
  rw [predicateHolds, map_eq_pure_bind] at evaluated
  obtain ⟨value, evaluated, -⟩ := Trace.ok_of_bind evaluated
  exact colon_of_evaluate evaluated

/-- Where tokens are shown, nothing that is visited in them reads an attribute. -/
theorem not_reads_of_visits (visits : Visits (contextFree objects) tokens visit)
    (ended : (renderTokens (contextFree objects) (renderBody (contextFree objects) limit levels) false
      tokens).outcome = .ok shown) : ¬ visit.ReadsAttribute := by
  induction visits generalizing levels shown with
  | exec member =>
    rw [renderTokens_groups] at ended
    obtain ⟨part, rendered⟩ := rendering_of_renderGroups ended member
    obtain ⟨named, valued, -⟩ := Trace.ok_of_bind rendered
    exact colon_of_execValue valued
  | predicate turn asks =>
    obtain ⟨held, asked, -⟩ := holds_of_hasTurn ended turn
    exact colon_of_holds asks asked
  | body turn holds read inside ih =>
    obtain ⟨held, asked, bodies⟩ := holds_of_hasTurn ended turn
    rw [holds] at asked
    cases asked
    obtain ⟨part, rendered⟩ := bodies rfl
    -- the body was shown, so the limit left it a level
    cases levels with
    | zero => cases rendered
    | succ levels =>
      rw [renderBody, read] at rendered
      exact ih rendered

theorem call_of_renderGroups {all : List Group}
    (member : call ∈ (renderGroups host body all).calls) :
    ∃ group ∈ all, call ∈ (group.rendering host body).calls := by
  induction all with
  | nil => cases member
  | cons first rest ih =>
    rw [renderGroups] at member
    rcases Trace.call_of_bind member with here | ⟨part, -, member⟩
    · exact ⟨first, List.mem_cons_self, here⟩
    · rcases Trace.call_of_bind member with there | ⟨behind, -, none⟩
      · obtain ⟨group, later, found⟩ := ih there
        exact ⟨group, List.mem_cons_of_mem first later, found⟩
      · cases none

/-- A call of a chain is one of the condition of a branch that has its turn, or of its body. -/
theorem call_of_selectFirst {members : List Branch}
    (member : call ∈ (selectFirst host body members).calls) :
    ∃ before branch behind, members = before ++ branch :: behind ∧
      (∀ earlier ∈ before, (earlier.holds host).outcome = .ok false) ∧
      (call ∈ (branch.holds host).calls ∨
        (branch.holds host).outcome = .ok true ∧ call ∈ (body branch.body).calls) := by
  induction members with
  | nil => cases member
  | cons first rest ih =>
    rw [selectFirst] at member
    rcases Trace.call_of_bind member with here | ⟨held, asked, member⟩
    · exact ⟨[], first, rest, rfl, List.forall_mem_nil _, .inl here⟩
    · cases held with
      | true => exact ⟨[], first, rest, rfl, List.forall_mem_nil _, .inr ⟨asked, member⟩⟩
      | false =>
        obtain ⟨before, branch, behind, rfl, refused, found⟩ := ih member
        exact ⟨first :: before, branch, behind, rfl, List.forall_mem_cons.mpr ⟨asked, refused⟩, found⟩

theorem name_of_holds (member : call ∈ (Branch.holds host branch).calls) :
    branch.kind ≠ .elseBranch ∧
      ∃ name ∈ (Visit.predicate (branch.predicate.getD "")).names, call = .resolve name := by
  rw [Branch.holds] at member
  have asked (member : call ∈ (predicateHolds host (branch.predicate.getD "")).calls) :
      ∃ name ∈ (Visit.predicate (branch.predicate.getD "")).names, call = .resolve name := by
    rw [predicateHolds, Trace.map_calls, evaluate_calls] at member
    obtain ⟨name, operand, rfl⟩ := List.mem_map.mp ((run_calls host _ {}).1.subset member)
    exact ⟨name, operand, rfl⟩
  split at member
  · next kind => exact ⟨by simp [kind], asked member⟩
  · next kind => exact ⟨by simp [kind], asked member⟩
  · cases member

/-- Every word names a value, so no exec block is tried as a command. -/
theorem name_of_exec
    (member : call ∈ ((Group.exec text).rendering (contextFree objects) body).calls) :
    ∃ name ∈ (Visit.exec text).names, call = .resolve name := by
  rw [Group.rendering] at member
  rcases Trace.call_of_bind member with asked | ⟨named, valued, member⟩
  · exact name_of_execValue asked
  · have value : ∃ value, named = some value := by
      rw [execValue, WordPrinting.cutAt?_none (colon_of_execValue valued)] at valued
      cases valued
      exact ⟨_, rfl⟩
    obtain ⟨value, rfl⟩ := value
    cases member

/-- The call looks up a name of something that is visited. -/
def Visited (host : Host O) (tokens : List Token) (call : Call) : Prop :=
  ∃ visit, Visits host tokens visit ∧ ∃ name ∈ visit.names, call = .resolve name

theorem visited_of_tokens {body : String → Traced String}
    (inBody : ∀ source, call ∈ (body source).calls →
      ∃ inner, lex source = .ok inner ∧ Visited (contextFree objects) inner call)
    (member : call ∈ (renderTokens (contextFree objects) body false tokens).calls) :
    Visited (contextFree objects) tokens call := by
  rw [renderTokens_groups] at member
  obtain ⟨group, present, member⟩ := call_of_renderGroups member
  cases group with
  | raw | orphan => cases member
  | exec text => exact ⟨_, .exec present, name_of_exec member⟩
  | chain first followers =>
    obtain ⟨before, branch, behind, split, refused, found⟩ := call_of_selectFirst member
    have turn : HasTurn (contextFree objects) tokens branch :=
      ⟨first, followers, before, behind, present, split, refused⟩
    rcases found with asked | ⟨holds, shown⟩
    · obtain ⟨asks, name⟩ := name_of_holds asked
      exact ⟨_, .predicate turn asks, name⟩
    · obtain ⟨inner, read, visit, visits, name⟩ := inBody branch.body shown
      exact ⟨visit, .body turn holds read visits, name⟩

/-- Whatever tokens ask is the lookup of a name that is visited in them. -/
theorem visited_of_renderTokens (member : call ∈ (renderTokens (contextFree objects)
      (renderBody (contextFree objects) limit levels) false tokens).calls) :
    Visited (contextFree objects) tokens call := by
  induction levels generalizing tokens with
  | zero =>
    refine visited_of_tokens (fun source beyond => ?_) member
    cases beyond
  | succ levels ih =>
    refine visited_of_tokens (fun source shown => ?_) member
    rw [renderBody] at shown
    rcases Trace.call_of_bind shown with none | ⟨inner, read, shown⟩
    · cases none
    · exact ⟨inner, read, ih shown⟩

/-- Without context nothing is tried as a command, and every call looks up a name of something that is
considered. If anything that is considered reads an attribute, the whole rendering fails; where it
does not fail, no selected exec block has a colon in it and no evaluated condition has a colon among
its words. For no operator has an object as its result, as long as it has none among its operands,
and at no word of any expression is there one on the stack. -/
theorem render_contextFree (objects : Objects O) (config : Config) (source : String) :
    (render (contextFree objects) config source).executed = [] ∧
      (∀ call ∈ (render (contextFree objects) config source).calls,
        ∃ visit, Considers (contextFree objects) config source visit ∧
          ∃ name ∈ visit.names, call = .resolve name) ∧
      ((∃ visit, Considers (contextFree objects) config source visit ∧ visit.ReadsAttribute) →
        ∃ fault, (render (contextFree objects) config source).outcome = .error fault) ∧
      (∀ shown, (render (contextFree objects) config source).outcome = .ok shown →
        ∀ visit, Considers (contextFree objects) config source visit → ¬ visit.ReadsAttribute) ∧
      (∀ op (operands : List (Value O)) value, (∀ operand ∈ operands, operand.type ≠ .object) →
        Operator.apply objects op operands = .ok value → value.type ≠ .object) ∧
      ∀ (words : List String) state,
        (words.foldlM (Progress.word (contextFree objects)) {}).outcome = .ok state →
          ∀ value ∈ state.values, value.type ≠ .object := by
  have calls : ∀ call ∈ (render (contextFree objects) config source).calls,
      ∃ visit, Considers (contextFree objects) config source visit ∧
        ∃ name ∈ visit.names, call = .resolve name := by
    intro call member
    rw [render] at member
    split at member
    · cases member
    · next full =>
      rcases Trace.call_of_bind member with none | ⟨tokens, read, member⟩
      · cases none
      · obtain ⟨visit, visits, name⟩ := visited_of_renderTokens member
        exact ⟨visit, ⟨Bool.eq_false_iff.mpr full, tokens, read, visits⟩, name⟩
  have clear : ∀ shown, (render (contextFree objects) config source).outcome = .ok shown →
      ∀ visit, Considers (contextFree objects) config source visit → ¬ visit.ReadsAttribute := by
    rintro shown ended visit ⟨full, tokens, read, visits⟩
    rw [render, full, renderFully, read] at ended
    exact not_reads_of_visits visits ended
  refine ⟨?_, calls, ?_, clear, fun op operands value plain ended => plain_apply plain ended,
    fun words state run => plain_stack run⟩
  · refine List.filterMap_eq_nil_iff.mpr fun call member => ?_
    obtain ⟨visit, -, name, -, rfl⟩ := calls call member
    rfl
  · rintro ⟨visit, considered, reads⟩
    cases ended : (render (contextFree objects) config source).outcome with
    | error fault => exact ⟨fault, rfl⟩
    | ok shown => exact absurd reads (clear shown ended visit considered)

/-- A colon in a body that is not selected does no harm, and neither does one that is quoted. -/
example : (render (contextFree noObjects) {} "[if 1=2](\x7ba:b\x7d)[elif ':'](shown)").outcome =
    .ok "shown" := by
  decide +kernel

end ChatTemplate.ContextFree
