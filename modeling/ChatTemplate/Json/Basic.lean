import ChatTemplate.Decimal.Reading

/-! JSON documents as they stand in a text: members keep their order and their repetitions, and
numerals stay text, so that each reader of a document decides what it accepts. -/
namespace ChatTemplate

inductive Json where
  | null
  | bool (b : Bool)
  | number (numeral : String)
  /-- Nothing for a string whose escapes do not spell Unicode text. -/
  | string (text : Option String)
  | array (items : List Json)
  | object (members : List (Option String × Json))

namespace Json

/-- The value of a numeral with neither sign, fraction nor exponent. -/
def natural? : Json → Option Nat
  | .number numeral =>
    if numeral.toList.all Char.isDigit then some (Decimal.number numeral.toList) else none
  | _ => none

/-- A natural number of at most 64 bits. -/
def word? (json : Json) : Option Nat := json.natural?.filter (· < UInt64.size)

def bool? : Json → Option Bool
  | .bool b => some b
  | _ => none

def string? : Json → Option String
  | .string text => text
  | _ => none

/-- Null as nothing, anything else as `read` takes it. -/
def nullable? (read : Json → Option α) : Json → Option (Option α)
  | .null => some none
  | json => (read json).map some

/-- The one member of that name, nothing if there is none, and failure if there are several. -/
def member? (name : String) (members : List (Option String × Json)) : Option (Option Json) :=
  match members.filter (·.1 == some name) with
  | [] => some none
  | [(_, json)] => some (some json)
  | _ => none

/-- The fields of a record by their names. An object gives them by name and may have members that
are no fields; an array gives them by position and may leave out the last ones. -/
def fields? (names : List String) : Json → Option (List (Option Json))
  | .object members =>
    if members.all (·.1.isSome) then names.mapM (member? · members) else none
  | .array items =>
    if items.length ≤ names.length then
      some (items.map some ++ List.replicate (names.length - items.length) none)
    else none
  | _ => none

/-- A field that must be there. -/
def required? (read : Json → Option α) (field : Option Json) : Option α := field.bind read

/-- A field that has a default. -/
def optional? (read : Json → Option α) (default : α) : Option Json → Option α
  | none => some default
  | some json => read json

end Json

end ChatTemplate
