import ChatTemplate.Value

/-! The host is the other half of every rendering: it gives meaning to names and takes commands.
A rendering sees nothing of the surrounding program but this record. -/
namespace ChatTemplate

structure Host (O : Type) extends Objects O where
  /-- The value of a token, if it names one. -/
  resolve? : String → Option (Value O)
  /-- Takes a command line, and tells whether it was taken. -/
  execute : String → Bool

/-- The host of templates that no message triggers. Every token means its own text, so nothing is
ever tried as a command. -/
def contextFree (objects : Objects O) : Host O where
  toObjects := objects
  resolve? token := some (.str token)
  execute _ := true

/-- What there is to tell about objects where there are none. -/
def noObjects : Objects Empty where
  display := Empty.elim
  attribute? := Empty.elim

end ChatTemplate
