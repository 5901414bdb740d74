import SoftClock.Text.Integer

/-!
# JSON Values

The values of the JSON data format and their texts.

Numbers written without fraction and exponent are integers of any size. All others are a mantissa
and a power of ten, as is `-0`, which no integer stands for. Strings may hold a surrogate escape
without its partner; such a string has no text, and is told apart so that readers can refuse it
where the text matters.

* `Json.compact` writes a value without any space;
* `Json.pretty` writes one item or field to a line.
-/

namespace SoftClock

/-- The content of a JSON string. -/
inductive JsonText where
  /-- A text. -/
  | text (text : String)
  /-- A surrogate escape stands without its partner. -/
  | unpaired
  deriving DecidableEq, Repr

/-- A JSON value. -/
inductive Json where
  | null
  | bool (value : Bool)
  | integer (value : Int)
  | decimal (mantissa exponent : Int)
  | string (content : JsonText)
  | array (items : List Json)
  | object (fields : List (JsonText × Json))

namespace Json

/-- A string value. -/
def ofString (text : String) : Json := .string (.text text)

/-- An unsigned word. -/
def ofUInt64 (value : UInt64) : Json := .integer value.toNat

/-- A signed word. -/
def ofInt64 (value : Int64) : Json := .integer value.toInt

/-- An unsigned half word. -/
def ofUInt32 (value : UInt32) : Json := .integer value.toNat

/-- A value that may be missing, which is written as `null`. -/
def ofOption {α : Type} (encode : α → Json) : Option α → Json
  | none => .null
  | some value => encode value

/-- An object with named fields. -/
def record (fields : List (String × Json)) : Json :=
  .object (fields.map fun field => (.text field.1, field.2))

/-! ## Writing -/

/-- The lower-case hexadecimal digit of a number below sixteen. -/
def hexDigit (n : Nat) : Char := Nat.digitChar n

/-- A character inside a string. Only the quotation mark, the backslash and control characters are
escaped. -/
def stringChar (c : Char) : List Char :=
  if c = '"' then ['\\', '"']
  else if c = '\\' then ['\\', '\\']
  else if c = '\x08' then ['\\', 'b']
  else if c = '\t' then ['\\', 't']
  else if c = '\n' then ['\\', 'n']
  else if c = '\x0c' then ['\\', 'f']
  else if c = '\r' then ['\\', 'r']
  else if c.toNat < 0x20 then
    ['\\', 'u', '0', '0', hexDigit (c.toNat / 16), hexDigit (c.toNat % 16)]
  else [c]

/-- A string with its quotation marks. -/
def textChars : JsonText → List Char
  | .text text => '"' :: text.toList.flatMap stringChar ++ ['"']
  | .unpaired => ['"', '\\', 'u', 'd', '8', '0', '0', '"']

mutual

/-- The text of a value without any space. -/
def compactChars : Json → List Char
  | .null => ['n', 'u', 'l', 'l']
  | .bool true => ['t', 'r', 'u', 'e']
  | .bool false => ['f', 'a', 'l', 's', 'e']
  | .integer value => Text.intChars value
  | .decimal mantissa exponent => Text.intChars mantissa ++ 'e' :: Text.intChars exponent
  | .string content => textChars content
  | .array [] => ['[', ']']
  | .array (item :: items) => '[' :: compactChars item ++ compactItems items
  | .object [] => ['\x7b', '\x7d']
  | .object ((key, value) :: fields) =>
    '\x7b' :: textChars key ++ ':' :: compactChars value ++ compactFields fields

/-- The further items of an array and its end. -/
def compactItems : List Json → List Char
  | [] => [']']
  | item :: items => ',' :: compactChars item ++ compactItems items

/-- The further fields of an object and its end. -/
def compactFields : List (JsonText × Json) → List Char
  | [] => ['\x7d']
  | (key, value) :: fields =>
    ',' :: textChars key ++ ':' :: compactChars value ++ compactFields fields

end

/-- The text of a value without any space. -/
def compact (value : Json) : String := String.ofList value.compactChars

/-- A new line at a depth of nesting. -/
def newLine (depth : Nat) : List Char := '\n' :: List.replicate (2 * depth) ' '

mutual

/-- The text of a value at a depth of nesting, with one item or field to a line. -/
def prettyChars (depth : Nat) : Json → List Char
  | .array (item :: items) =>
    '[' :: newLine (depth + 1) ++ prettyChars (depth + 1) item ++ prettyItems depth items
  | .object ((key, value) :: fields) =>
    '\x7b' :: newLine (depth + 1) ++ textChars key ++ ':' :: ' ' ::
      prettyChars (depth + 1) value ++ prettyFields depth fields
  | .array [] => ['[', ']']
  | .object [] => ['\x7b', '\x7d']
  | .null => ['n', 'u', 'l', 'l']
  | .bool true => ['t', 'r', 'u', 'e']
  | .bool false => ['f', 'a', 'l', 's', 'e']
  | .integer value => Text.intChars value
  | .decimal mantissa exponent => Text.intChars mantissa ++ 'e' :: Text.intChars exponent
  | .string content => textChars content

/-- The further items of an array and its end. -/
def prettyItems (depth : Nat) : List Json → List Char
  | [] => newLine depth ++ [']']
  | item :: items =>
    ',' :: newLine (depth + 1) ++ prettyChars (depth + 1) item ++ prettyItems depth items

/-- The further fields of an object and its end. -/
def prettyFields (depth : Nat) : List (JsonText × Json) → List Char
  | [] => newLine depth ++ ['\x7d']
  | (key, value) :: fields =>
    ',' :: newLine (depth + 1) ++ textChars key ++ ':' :: ' ' ::
      prettyChars (depth + 1) value ++ prettyFields depth fields

end

/-- The text of a value with one item or field to a line. -/
def pretty (value : Json) : String := String.ofList (value.prettyChars 0)

end Json

end SoftClock
