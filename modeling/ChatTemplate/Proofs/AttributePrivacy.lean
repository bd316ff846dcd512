import Mathlib.Logic.Relator
import ChatTemplate.Proofs.TwoRuns
import ChatTemplate.Rendering.Source

/-! What a template cannot find out. Objects of two hosts are paired off one to one; a pair shows
the same text and has values that go together under the six readable names, while all its other
attributes are arbitrary. Values go together where they are equal or paired objects. Every
operation takes values that go together to values that go together, equality and identity included
because no object has two partners. Hence two hosts that give every token values that go together
get the same text or fault and are asked the same questions. -/
namespace ChatTemplate.AttributePrivacy
open Expression TwoRuns

/-- Equal values, or paired objects. -/
inductive Alike (paired : O → P → Prop) : Value O → Value P → Prop where
  | int (n : Int64) : Alike paired (.int n) (.int n)
  | float (x : Float) : Alike paired (.float x) (.float x)
  | str (s : String) : Alike paired (.str s) (.str s)
  | object (pair : paired o p) : Alike paired (.object o) (.object p)
  | null : Alike paired .null .null

/-- A pairing of objects that differ at most in attributes no template may read. -/
structure Lookalikes (paired : O → P → Prop) (first : Objects O) (second : Objects P) : Prop where
  /-- No object has two partners. -/
  oneToOne : Relator.BiUnique paired
  display : paired o p → first.display o = second.display p
  readable : paired o p →
    ∀ name ∈ ["name", "colour", "id", "discriminator", "nick", "display_name"],
      Option.Rel (Alike paired) (first.attribute? o name) (second.attribute? p name)

/-- Hosts of such objects that give every token values that go together and take the same
commands. -/
structure Indistinct (paired : O → P → Prop) (first : Host O) (second : Host P) : Prop extends
    Lookalikes paired first.toObjects second.toObjects where
  resolve : ∀ token, Option.Rel (Alike paired) (first.resolve? token) (second.resolve? token)
  execute : ∀ text, first.execute text = second.execute text

/-- A chat of two members, each the other's nickname, whose password is not to be read. -/
def twoMembers (author : Bool) (password : String) : Host Bool where
  display member := if member = author then "Ann" else "Bob"
  attribute? member
    | "name" => some (.str (if member = author then "Ann" else "Bob"))
    | "nick" => some (.object !member)
    | "password" => some (.str password)
    | _ => none
  resolve?
    | "author" => some (.object author)
    | "friend" => some (.object !author)
    | _ => none
  execute _ := false

theorem twoMembers_indistinct (password password' : String) :
    Indistinct (fun member member' => member' = !member) (twoMembers true password)
      (twoMembers false password') where
  oneToOne := by
    constructor <;> intro a b c <;> revert a b c <;> decide
  display := by
    rintro o _ rfl
    cases o <;> rfl
  readable := by
    rintro o _ rfl name listed
    simp only [List.mem_cons, List.not_mem_nil, or_false] at listed
    rcases listed with rfl | rfl | rfl | rfl | rfl | rfl
    · cases o <;> exact .some (.str _)
    · exact .none
    · exact .none
    · exact .none
    · exact .some (.object rfl)
    · exact .none
  resolve := by
    intro token
    simp only [twoMembers]
    split
    · exact .some (.object rfl)
    · exact .some (.object rfl)
    · exact .none
  execute _ := rfl

section Values
variable {paired : O → P → Prop} {left right : Value O} {left' right' : Value P}

namespace Alike

theorem ofBool (b : Bool) : Alike paired (.ofBool b) (.ofBool b) := .int _

theorem isTruthy (same : Alike paired left left') : left.isTruthy = left'.isTruthy := by
  cases same <;> rfl

theorem number? (same : Alike paired left left') : left.number? = left'.number? := by
  cases same <;> rfl

theorem display {objects : Objects O} {objects' : Objects P}
    (alike : Lookalikes paired objects objects') (same : Alike paired left left') :
    left.display objects = left'.display objects' := by
  cases same with
  | object pair => exact alike.display pair
  | _ => rfl

/-- A pairing that is one to one keeps objects apart that are not the same. -/
theorem sameAs [DecidableEq O] [DecidableEq P] (unique : Relator.BiUnique paired)
    (lefts : Alike paired left left') (rights : Alike paired right right') :
    left.sameAs right = left'.sameAs right' := by
  cases lefts with
  | object pair =>
    cases rights with
    | object pair' =>
      simp only [Value.sameAs, decide_eq_decide]
      exact Relator.rel_eq unique pair pair'
    | _ => rfl
  | _ => cases rights <;> rfl

theorem looselyEquals [DecidableEq O] [DecidableEq P] (unique : Relator.BiUnique paired)
    (lefts : Alike paired left left') (rights : Alike paired right right') :
    left.looselyEquals right = left'.looselyEquals right' := by
  simp only [Value.looselyEquals, lefts.number?, rights.number?, lefts.sameAs unique rights]

private theorem onFloats (outcome : Except Fault Float) :
    Ends Never (Alike paired) (outcome.map .float) (outcome.map .float) := by
  cases outcome with
  | ok x => exact .ok (.float x)
  | error fault => exact .error fault

theorem onNumbers (operation : Arithmetic) (lefts : Alike paired left left')
    (rights : Alike paired right right') :
    Ends Never (Alike paired) (operation.onNumbers left right) (operation.onNumbers left' right') := by
  cases lefts with
  | int a =>
    cases rights with
    | int b =>
      simp only [Arithmetic.onNumbers]
      cases operation.onWords? a.toInt b.toInt with
      | some n => exact .ok (.int n)
      | none => exact onFloats _
    | float b => exact onFloats _
    | _ => exact .error _
  | float a =>
    cases rights with
    | int b | float b => exact onFloats _
    | _ => exact .error _
  | _ => cases rights <;> exact .error _

theorem arithmetic (operation : Arithmetic) (lefts : Alike paired left left')
    (rights : Alike paired right right') :
    Ends Never (Alike paired) (operation.apply left right) (operation.apply left' right') := by
  have numeric := lefts.onNumbers operation rights
  cases operation with
  | plus =>
    cases lefts with
    | str a =>
      cases rights with
      | str b => exact .ok (.str (a ++ b))
      | _ => exact numeric
    | _ => exact numeric
  | _ => exact numeric

protected theorem refl (value : Value O) : Alike Eq value value := by
  cases value with
  | int n => exact .int n
  | float x => exact .float x
  | str s => exact .str s
  | object o => exact .object rfl
  | null => exact .null

theorem option_refl (value : Option (Value O)) : Option.Rel (Alike Eq) value value := by
  cases value with
  | none => exact .none
  | some value => exact .some (.refl value)

theorem getD {value : Option (Value O)} {value' : Option (Value P)}
    (found : Option.Rel (Alike paired) value value') (otherwise : Alike paired left left') :
    Alike paired (value.getD left) (value'.getD left') := by
  cases found with
  | some same => exact same
  | none => exact otherwise

end Alike
end Values

section Operators
variable {paired : O → P → Prop} {left right : Value O} {left' right' : Value P}
variable {objects : Objects O} {objects' : Objects P}

/-- Both ways to an attribute pass the list, so only values that go together come back. -/
theorem readAttribute_alike (alike : Lookalikes paired objects objects')
    (owners : Alike paired left left') (names : Alike paired right right') :
    Ends Never (Alike paired) (readAttribute objects left right)
      (readAttribute objects' left' right') := by
  cases names with
  | str name =>
    simp only [readAttribute]
    -- Off the list both sides fail before either looks at its object.
    split
    · next listed =>
      cases owners with
      | object pair =>
        have values := alike.readable pair name listed
        simp only
        generalize objects.attribute? _ name = value at values
        generalize objects'.attribute? _ name = value' at values
        cases values with
        | none => exact .error _
        | some same =>
          simp only [same.display alike]
          split
          · exact .ok (.str _)
          · exact .ok same
      | _ => exact .error _
    · exact .error _
  | object pair =>
    simp only [readAttribute, (Alike.object pair).display alike]
    exact .error _
  | _ => exact .error _

variable [DecidableEq O] [DecidableEq P]

theorem binary_alike (alike : Lookalikes paired objects objects') (operation : Binary)
    (lefts : Alike paired left left') (rights : Alike paired right right') :
    Ends Never (Alike paired) (operation.apply objects left right)
      (operation.apply objects' left' right') := by
  cases operation with
  | equal =>
    simp only [Binary.apply, lefts.looselyEquals alike.oneToOne rights]
    exact .ok (.ofBool _)
  | is =>
    simp only [Binary.apply, lefts.sameAs alike.oneToOne rights]
    exact .ok (.ofBool _)
  | and | or =>
    simp only [Binary.apply, lefts.isTruthy, rights.isTruthy]
    exact .ok (.ofBool _)
  | «attribute» => exact readAttribute_alike alike lefts rights
  | arithmetic operation => exact lefts.arithmetic operation rights

theorem apply_alike (alike : Lookalikes paired objects objects') (op : Operator)
    (count : values.length = op.arity) (operands : List.Forall₂ (Alike paired) values values') :
    Ends Never (Alike paired) (op.apply objects values) (op.apply objects' values') := by
  cases op with
  | openParen | closeParen =>
    obtain rfl := List.eq_nil_of_length_eq_zero count
    cases operands
    exact .error _
  | not =>
    obtain ⟨value, rfl⟩ := List.length_eq_one_iff.mp count
    rcases operands with _ | ⟨operand, _ | _⟩
    simp only [Operator.apply, operand.isTruthy]
    exact .ok (.ofBool _)
  | binary operation =>
    obtain ⟨left, right, rfl⟩ := List.length_eq_two.mp count
    rcases operands with _ | ⟨lefts, _ | ⟨rights, _ | _⟩⟩
    exact binary_alike alike operation lefts rights

end Operators

section Renderings
variable {paired : O → P → Prop} {host : Host O} {host' : Host P}

theorem operand_alike (alike : Indistinct paired host host') {state : Progress O}
    {state' : Progress P} (after : state.afterAttribute = state'.afterAttribute) (word : String) :
    Alike paired (state.operand host word) (state'.operand host' word) := by
  simp only [Progress.operand, after]
  refine .getD (alike.resolve word) ?_
  split
  · exact .str word
  · exact .null

/-- Evaluations on such hosts match, so an expression has values that go together or the same
fault. -/
theorem parallel [DecidableEq O] [DecidableEq P] (alike : Indistinct paired host host') :
    Parallel Never (Alike paired) host host' where
  operand abreast word := operand_alike alike abreast.afterAttribute word
  apply count operands := apply_alike alike.toLookalikes _ count operands

theorem lookUp_alike (alike : Indistinct paired host host') (token : String) :
    Matches Never (Option.Rel (Alike paired)) (host.lookUp token) (host'.lookUp token) :=
  .ask _ (alike.resolve token)

/-- An exec block reads attributes past the same list as an expression does. -/
theorem execValue_alike (alike : Indistinct paired host host') (text : String) :
    Matches Never (Option.Rel (Alike paired)) (execValue host text) (execValue host' text) := by
  simp only [execValue]
  cases Text.cutAt? ':' text.toList with
  | none => exact lookUp_alike alike (Text.trimmed text)
  | some parts =>
    obtain ⟨before, after⟩ := parts
    refine (lookUp_alike alike _).bind fun _ _ owner => ?_
    refine (lookUp_alike alike _).bind fun _ _ named => ?_
    have owners := Alike.getD owner .null
    have names := Alike.getD named (.str (String.ofList (Text.trim after)))
    have read := readAttribute_alike alike.toLookalikes owners names
    exact (Matches.ofExcept read).bind fun _ _ same => .pure (.some same)

theorem renderExec_same (alike : Indistinct paired host host') (text : String) :
    renderExec host text = renderExec host' text := by
  refine (execValue_alike alike text).bind_eq fun _ _ found => ?_
  cases found with
  | some same => simp only [same.display alike.toLookalikes]
  | none => simp only [alike.execute text]

variable [DecidableEq O] [DecidableEq P]

theorem predicateHolds_same (alike : Indistinct paired host host') (predicate : String) :
    predicateHolds host predicate = predicateHolds host' predicate := by
  simp only [predicateHolds, map_eq_pure_bind]
  exact (evaluate_matches (parallel alike) _).bind_eq fun _ _ same => by rw [same.isTruthy]

theorem selectBranch_same (alike : Indistinct paired host host') (armed : Bool)
    (kind : BranchKind) (predicate : Option String) :
    selectBranch host armed kind predicate = selectBranch host' armed kind predicate := by
  cases kind <;> cases armed <;> simp only [selectBranch, predicateHolds_same alike]

theorem renderTokens_same (alike : Indistinct paired host host')
    (body : String → Traced String) (armed : Bool) (tokens : List Token) :
    renderTokens host body armed tokens = renderTokens host' body armed tokens := by
  induction tokens generalizing armed with
  | nil => rfl
  | cons token rest ih =>
    cases token with
    | raw text => simp only [renderTokens, ih]
    | exec text => simp only [renderTokens, renderExec_same alike, ih]
    | branch kind predicate source => simp only [renderTokens, selectBranch_same alike, ih]

theorem renderBody_same (alike : Indistinct paired host host') (limit levels : Nat) :
    renderBody host limit levels = renderBody host' limit levels := by
  induction levels with
  | zero => rfl
  | succ levels ih =>
    funext source
    simp only [renderBody, ih, renderTokens_same alike]

theorem interpret_same (alike : Indistinct paired host host') (limit : Nat)
    (tokens : List Token) : interpret host limit tokens = interpret host' limit tokens := by
  rw [interpret, interpret, renderBody_same alike, renderTokens_same alike]

theorem render_same (alike : Indistinct paired host host') (config : Config) (source : String) :
    render host config source = render host' config source := by
  simp only [render, renderFully, interpret_same alike]

/-- Attributes off the list can be replaced at will, and no template changes what it shows. -/
theorem render_unlisted (host : Host O) (reveal : O → String → Option (Value O))
    (agree : ∀ o, ∀ name ∈ readableAttributes, reveal o name = host.attribute? o name)
    (config : Config) (source : String) :
    render { host with attribute? := reveal } config source = render host config source := by
  have alike : Indistinct Eq { host with attribute? := reveal } host := {
    oneToOne := ⟨fun _ _ _ left right => left.trans right.symm,
      fun _ _ _ left right => left.symm.trans right⟩
    display := by
      rintro o _ rfl
      rfl
    readable := by
      rintro o _ rfl name listed
      simp only [agree o name listed]
      exact Alike.option_refl _
    resolve := fun token => Alike.option_refl _
    execute := fun text => rfl }
  exact render_same alike config source

/-- A template shows the same, fails the same and asks the same of two hosts that differ only in
attributes off the list, be it read from tokens or from text. -/
theorem indistinct_renderings (alike : Indistinct paired host host') :
    (∀ limit tokens, interpret host limit tokens = interpret host' limit tokens) ∧
    ∀ config source, render host config source = render host' config source :=
  ⟨interpret_same alike, render_same alike⟩

end Renderings

theorem indistinct_renderings_members :
    Indistinct (fun member member' => member' = !member) (twoMembers true "sesame")
      (twoMembers false "swordfish") ∧
    (twoMembers true "sesame").attribute? true "password" ≠
      (twoMembers false "swordfish").attribute? false "password" ∧
    render (twoMembers true "sesame") {} "[if author:nick is friend](\x7bauthor:name\x7d)" =
      render (twoMembers false "swordfish") {}
        "[if author:nick is friend](\x7bauthor:name\x7d)" := by
  have alike := twoMembers_indistinct "sesame" "swordfish"
  refine ⟨alike, ?_, (indistinct_renderings alike).2 {} _⟩
  simp [twoMembers]

end ChatTemplate.AttributePrivacy
