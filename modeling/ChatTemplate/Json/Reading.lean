import ChatTemplate.Json.Basic

/-! Reading the text of a JSON document. The grammar is RFC 8259's, without extensions: blanks are
space, tab, line feed and carriage return, strings hold no raw control character, and one value
fills the text. -/
namespace ChatTemplate.Json

def isSpace (c : Char) : Bool := c == ' ' || c == '\n' || c == '\t' || c == '\r'

def skipSpace (text : List Char) : List Char := text.dropWhile isSpace

def hexDigit? (c : Char) : Option Nat :=
  if '0' ≤ c && c ≤ '9' then some (c.toNat - '0'.toNat)
  else if 'a' ≤ c && c ≤ 'f' then some (c.toNat - 'a'.toNat + 10)
  else if 'A' ≤ c && c ≤ 'F' then some (c.toNat - 'A'.toNat + 10)
  else none

/-- The UTF-16 unit that four hexadecimal digits write. -/
def unit? (a b c d : Char) : Option Nat := do
  return (((← hexDigit? a) * 16 + (← hexDigit? b)) * 16 + (← hexDigit? c)) * 16 + (← hexDigit? d)

/-- The characters of the escapes with one letter. -/
def escaped? : Char → Option Char
  | '"' => some '"'
  | '\\' => some '\\'
  | '/' => some '/'
  | 'b' => some '\x08'
  | 'f' => some '\x0c'
  | 'n' => some '\n'
  | 'r' => some '\r'
  | 't' => some '\t'
  | _ => none

/-- One character of a string after another, up to the closing quote. `lead` is a high surrogate
that has just been read and still needs its low one; `sound` tells whether every surrogate so far
has met its partner; `read` holds the characters in reverse. -/
def stringFrom (read : List Char) (sound : Bool) (lead : Option Nat) :
    List Char → Option (Option String × List Char)
  | [] => none
  | '\\' :: 'u' :: a :: b :: c :: d :: rest =>
    match unit? a b c d with
    | none => none
    | some unit =>
      if 0xD800 ≤ unit ∧ unit < 0xDC00 then
        stringFrom read (sound && lead.isNone) (some unit) rest
      else if 0xDC00 ≤ unit ∧ unit < 0xE000 then
        match lead with
        | some high =>
          let code := 0x10000 + (high - 0xD800) * 0x400 + (unit - 0xDC00)
          stringFrom (Char.ofNat code :: read) sound none rest
        | none => stringFrom read false none rest
      else stringFrom (Char.ofNat unit :: read) (sound && lead.isNone) none rest
  | '\\' :: c :: rest =>
    match escaped? c with
    | none => none
    | some found => stringFrom (found :: read) (sound && lead.isNone) none rest
  | c :: rest =>
    if c = '"' then
      some (if sound && lead.isNone then some (String.ofList read.reverse) else none, rest)
    else if c.toNat < 0x20 || c = '\\' then none
    else stringFrom (c :: read) (sound && lead.isNone) none rest

/-- A string from behind its opening quote. -/
def quoted? (text : List Char) : Option (Option String × List Char) :=
  stringFrom [] true none text

/-- The digits at the front, of which there must be one. -/
def digits? (text : List Char) : Option (List Char × List Char) :=
  let found := text.takeWhile Char.isDigit
  if found.isEmpty then none else some (found, text.dropWhile Char.isDigit)

/-- A whole part has no zero before other digits. -/
def whole? : List Char → Option (List Char × List Char)
  | '0' :: rest => some (['0'], rest)
  | text => digits? text

def fraction? : List Char → Option (List Char × List Char)
  | '.' :: rest => (digits? rest).map fun (found, after) => ('.' :: found, after)
  | text => some ([], text)

def exponent? : List Char → Option (List Char × List Char)
  | c :: rest =>
    if c = 'e' || c = 'E' then
      let (sign, unsigned) := match rest with
        | '+' :: more => (['+'], more)
        | '-' :: more => (['-'], more)
        | _ => ([], rest)
      (digits? unsigned).map fun (found, after) => (c :: sign ++ found, after)
    else some ([], c :: rest)
  | [] => some ([], [])

/-- A numeral and what follows it. -/
def numeral? (text : List Char) : Option (String × List Char) := do
  let (sign, unsigned) := match text with
    | '-' :: rest => (['-'], rest)
    | _ => ([], text)
  let (whole, afterWhole) ← whole? unsigned
  let (fraction, afterFraction) ← fraction? afterWhole
  let (exponent, after) ← exponent? afterFraction
  return (String.ofList (sign ++ whole ++ fraction ++ exponent), after)

mutual

/-- A value and what follows it. -/
def value? : Nat → List Char → Option (Json × List Char)
  | 0, _ => none
  | fuel + 1, text =>
    match skipSpace text with
    | 'n' :: 'u' :: 'l' :: 'l' :: rest => some (.null, rest)
    | 't' :: 'r' :: 'u' :: 'e' :: rest => some (.bool true, rest)
    | 'f' :: 'a' :: 'l' :: 's' :: 'e' :: rest => some (.bool false, rest)
    | '"' :: rest => (quoted? rest).map fun (text, after) => (.string text, after)
    | '[' :: rest =>
      match skipSpace rest with
      | ']' :: after => some (.array [], after)
      | _ => (items? fuel rest).map fun (items, after) => (.array items, after)
    | '{' :: rest =>
      match skipSpace rest with
      | '}' :: after => some (.object [], after)
      | _ => (members? fuel rest).map fun (members, after) => (.object members, after)
    | text => (numeral? text).map fun (numeral, after) => (.number numeral, after)

/-- The items up to the closing bracket, at least one. -/
def items? : Nat → List Char → Option (List Json × List Char)
  | 0, _ => none
  | fuel + 1, text =>
    match value? fuel text with
    | none => none
    | some (item, rest) =>
      match skipSpace rest with
      | ']' :: after => some ([item], after)
      | ',' :: more => (items? fuel more).map fun (items, after) => (item :: items, after)
      | _ => none

/-- The members up to the closing brace, at least one. -/
def members? : Nat → List Char → Option (List (Option String × Json) × List Char)
  | 0, _ => none
  | fuel + 1, text =>
    match skipSpace text with
    | '"' :: quoted =>
      match quoted? quoted with
      | none => none
      | some (name, afterName) =>
        match skipSpace afterName with
        | ':' :: bound =>
          match value? fuel bound with
          | none => none
          | some (json, rest) =>
            match skipSpace rest with
            | '}' :: after => some ([(name, json)], after)
            | ',' :: more =>
              (members? fuel more).map fun (members, after) => ((name, json) :: members, after)
            | _ => none
        | _ => none
    | _ => none

end

/-- The document that a text is. Each call of a reader leaves less text to the calls inside it, at
the latest two levels down, so the fuel lasts. -/
def ofText? (text : String) : Option Json :=
  match value? (2 * text.length + 2) text.toList with
  | some (json, rest) => if (skipSpace rest).isEmpty then some json else none
  | none => none

end ChatTemplate.Json
