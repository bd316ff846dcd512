import ChatTemplate.Json.Basic
import ChatTemplate.Value

/-! The members, roles, channels and categories of a chat, and what a template can read of them. -/
namespace ChatTemplate.Chat

structure Entity where
  name : String
  id : Option Nat := none
  discriminator : Option String := none
  nick : Option String := none
  displayName : Option String := none
  colour : Option String := none
deriving DecidableEq, Repr

namespace Entity

/-- The name, followed by the discriminator where there is one. -/
def display (entity : Entity) : String :=
  match entity.discriminator with
  | some discriminator => entity.name ++ "#" ++ discriminator
  | none => entity.name

/-- A text that may be absent. -/
def optional : Option String → Value O
  | some text => .str text
  | none => .null

/-- The six attributes. An identifier beyond the integers of a template is null like an absent one; the display
name falls back to the nickname and then to the name, and the colour to black. -/
def attribute? (entity : Entity) (attributeName : String) : Option (Value O) :=
  match attributeName with
  | "name" => some (.str entity.name)
  | "id" => some (((entity.id.map Int.ofNat).bind word?).elim .null .int)
  | "discriminator" => some (optional entity.discriminator)
  | "nick" => some (optional entity.nick)
  | "display_name" => some (.str ((entity.displayName <|> entity.nick).getD entity.name))
  | "colour" => some (.str (entity.colour.getD "#000000"))
  | _ => none

/-- Only the name has to be given. -/
def ofJson? (json : Json) : Option Entity :=
  match json.fields? ["name", "id", "discriminator", "nick", "display_name", "colour"] with
  | some [name, id, discriminator, nick, displayName, colour] => do
    let text := Json.optional? (Json.nullable? Json.string?) none
    return {
      name := ← Json.required? Json.string? name
      id := ← Json.optional? (Json.nullable? Json.word?) none id
      discriminator := ← text discriminator
      nick := ← text nick
      displayName := ← text displayName
      colour := ← text colour }
  | _ => none

end Entity

end ChatTemplate.Chat
