import Mathlib.Data.List.TakeWhile
import ChatTemplate.Text.Blank

/-! What trimming leaves of a text. Blank ends go and all else stays, so a text that is not blank at
its ends is left as it is, and nothing is left of a blank text alone. -/
namespace ChatTemplate.Trimming

def Blank (text : List Char) : Prop := ∀ c ∈ text, Text.isBlank c = true

theorem trimLeft_blank (gap : Blank before) (text : List Char) :
    Text.trimLeft (before ++ text) = Text.trimLeft text :=
  List.dropWhile_append_of_pos gap

theorem trimLeft_unblank (unblank : ∀ c ∈ text.head?, Text.isBlank c = false) :
    Text.trimLeft text = text := by
  cases text with
  | nil => rfl
  | cons c rest => exact List.dropWhile_cons_of_neg (by simp [unblank c rfl])

theorem trim_unblank (front : ∀ c ∈ text.head?, Text.isBlank c = false)
    (back : ∀ c ∈ text.getLast?, Text.isBlank c = false) : Text.trim text = text := by
  rw [Text.trim, trimLeft_unblank front, trimLeft_unblank (by rwa [List.head?_reverse]),
    List.reverse_reverse]

theorem trim_eq_nil_iff : Text.trim text = [] ↔ Blank text := by
  constructor
  · intro trimmed
    have behind : ∀ c ∈ text.dropWhile Text.isBlank, Text.isBlank c = true := by
      simpa [Text.trim, Text.trimLeft, List.dropWhile_eq_nil_iff] using trimmed
    intro c member
    rw [← List.takeWhile_append_dropWhile (p := Text.isBlank) (l := text)] at member
    rcases List.mem_append.mp member with front | back
    · exact List.mem_takeWhile_imp front
    · exact behind c back
  · intro blank
    have left : text.dropWhile Text.isBlank = [] := List.dropWhile_eq_nil_iff.mpr blank
    simp [Text.trim, Text.trimLeft, left]

theorem trimmed_eq_empty_iff {text : String} : Text.trimmed text = "" ↔ Blank text.toList := by
  rw [← trim_eq_nil_iff]
  simp [Text.trimmed]

end ChatTemplate.Trimming
