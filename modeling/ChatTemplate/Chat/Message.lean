import ChatTemplate.Chat.Entity
import ChatTemplate.Decimal.Reading
import ChatTemplate.Host

/-! The message that triggers a rendering: who wrote it and where. Its parts are the objects of the
rendering, each identified by its place, so the same name always means the same object. -/
namespace ChatTemplate.Chat

structure Message where
  author : Entity
  /-- The highest role of the author. -/
  topRole : Entity
  channel : Entity
  /-- The category of the channel, if it is in one. -/
  category : Option Entity := none
deriving DecidableEq, Repr

/-- The places of a message, which are the objects of a chat rendering. -/
inductive Place where
  | author | topRole | channel | category
deriving DecidableEq, Repr

namespace Message

/-- A plain member in the general channel. -/
def standard : Message where
  author := { name := "user" }
  topRole := { name := "@everyone" }
  channel := { name := "general" }

def entity? (message : Message) : Place → Option Entity
  | .author => some message.author
  | .topRole => some message.topRole
  | .channel => some message.channel
  | .category => message.category

/-- A place shows its entity and has the attributes of its entity. -/
def objects (message : Message) : Objects Place where
  display place := ((message.entity? place).map Entity.display).getD ""
  attribute? place name := (message.entity? place).bind (·.attribute? name)

/-- The place as a value, if the message has something there. -/
def placed (message : Message) (place : Place) : Option (Value Place) :=
  (message.entity? place).map fun _ => .object place

/-- What stands between two equal quotes, double ones before single ones. -/
def unquoted? (token : String) : Option String :=
  let between (quote : Char) : Option String :=
    match token.toList with
    | opening :: rest =>
      if opening = quote ∧ rest.getLast? = some quote then some (String.ofList rest.dropLast)
      else none
    | [] => none
  between '"' <|> between '\''

/-- What a token means: a numeral, a place, the short name of an attribute or a quoted text. The
full names of attributes mean nothing by themselves. -/
def resolve? (message : Message) (token : String) : Option (Value Place) :=
  match Decimal.read? token with
  | some x => some (.float x)
  | none =>
    match token with
    | "a" | "author" => message.placed .author
    | "r" | "role" => message.placed .topRole
    | "ch" | "channel" => message.placed .channel
    | "cat" | "category" => message.placed .category
    | "n" => some (.str "name")
    | "disc" => some (.str "discriminator")
    | "c" => some (.str "colour")
    | "d" | "display" => some (.str "display_name")
    | token => (unquoted? token).map .str

/-- The host of a template that the message triggers; `accepts` takes its commands. -/
def host (message : Message) (accepts : String → Bool) : Host Place where
  toObjects := message.objects
  resolve? := message.resolve?
  execute := accepts

/-- The category is the only place that may be empty. -/
def ofJson? (json : Json) : Option Message :=
  match json.fields? ["author", "top_role", "channel", "category"] with
  | some [author, topRole, channel, category] => do
    return {
      author := ← Json.required? Entity.ofJson? author
      topRole := ← Json.required? Entity.ofJson? topRole
      channel := ← Json.required? Entity.ofJson? channel
      category := ← Json.optional? (Json.nullable? Entity.ofJson?) none category }
  | _ => none

end Message

end ChatTemplate.Chat
