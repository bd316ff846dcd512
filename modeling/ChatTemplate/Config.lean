import ChatTemplate.Json.Basic

/-! The settings of a renderer and how a JSON document gives them. -/
namespace ChatTemplate

structure Config where
  /-- How deep selected bodies nest, and custom commands that start one another. -/
  maxDepth : Nat := 32
  /-- Show a text that opens no block as it stands. -/
  fastPath : Bool := true
  /-- What to send when a command is not permitted. -/
  deniedMessage : String := "Cannot Execute Command: Insufficient Permissions"
deriving DecidableEq, Repr

/-- Every setting has a default, and only the three of them are looked at. -/
def Config.ofJson? (json : Json) : Option Config :=
  match json.fields? ["max_depth", "fast_path", "denied_message"] with
  | some [maxDepth, fastPath, deniedMessage] => do
    let standard : Config := {}
    return {
      maxDepth := ← Json.optional? Json.word? standard.maxDepth maxDepth
      fastPath := ← Json.optional? Json.bool? standard.fastPath fastPath
      deniedMessage := ← Json.optional? Json.string? standard.deniedMessage deniedMessage }
  | _ => none

end ChatTemplate
