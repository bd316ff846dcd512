import ChatTemplate.Chat.Command
import ChatTemplate.Text.Blank

/-! The commands of a chat by name. No two commands share a name: one that is registered under a
name already taken displaces the other. -/
namespace ChatTemplate.Chat

structure Registry where
  commands : List Command := []
  nodup : (commands.map (·.name)).Nodup := by simp

namespace Registry

/-- The command of that name. -/
def get? (registry : Registry) (name : String) : Option Command :=
  registry.commands.find? (·.name == name)

/-- The commands but the one of that name. -/
def without (registry : Registry) (name : String) : List Command :=
  registry.commands.filter (·.name != name)

theorem without_sublist (registry : Registry) (name : String) :
    (registry.without name).Sublist registry.commands := List.filter_sublist

/-- Takes in a command, and gives back the one it displaces. -/
def register (registry : Registry) (command : Command) : Registry × Option Command :=
  ({ commands := registry.without command.name ++ [command]
     nodup := by
      have rest := registry.nodup.sublist ((registry.without_sublist command.name).map (·.name))
      rw [List.map_append, List.nodup_append]
      refine ⟨rest, by simp, ?_⟩
      simp only [without, List.mem_map, List.mem_filter, List.map_cons, List.map_nil,
        List.mem_singleton]
      rintro _ ⟨other, ⟨_, differs⟩, rfl⟩ _ rfl
      simpa using differs },
   registry.get? command.name)

/-- Drops the command of that name, and gives it back. -/
def unregister (registry : Registry) (name : String) : Registry × Option Command :=
  (⟨registry.without name, registry.nodup.sublist ((registry.without_sublist name).map (·.name))⟩,
   registry.get? name)

/-- The bytes of a name, which its place among the names goes by. -/
def bytes (name : String) : List UInt8 := name.toByteArray.data.toList

/-- All names in the order of their bytes. -/
def names (registry : Registry) : List String :=
  (registry.commands.map (·.name)).mergeSort fun a b => bytes a ≤ bytes b

def size (registry : Registry) : Nat := registry.commands.length

def isEmpty (registry : Registry) : Bool := registry.commands.isEmpty

/-- The command that a command line names by its first word, and its other words. -/
def commandLine? (registry : Registry) (line : String) : Option (Command × List String) :=
  match (Text.words line.toList).map String.ofList with
  | [] => none
  | name :: args => (registry.get? name).map fun command => (command, args)

end Registry

end ChatTemplate.Chat
