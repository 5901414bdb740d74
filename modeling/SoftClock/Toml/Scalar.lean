import SoftClock.Text.Integer
import SoftClock.Toml.Value

/-!
# Scalars of TOML

Reading strings, numbers, truth values and dates. Each reader takes the text from the first
character of the scalar on and gives back what follows it; `none` means that the text is not of its
form. -/

namespace SoftClock.Toml

/-! ## Characters -/

/-- A space or a tab. -/
def isSpace (c : Char) : Bool := c = ' ' || c = '\t'

/-- A text without leading spaces and tabs. -/
def skipSpace (text : List Char) : List Char := text.dropWhile isSpace

/-- A character of a comment: all but control characters, with the tab allowed. -/
def isCommentChar (c : Char) : Bool := c = '\t' || (0x20 ≤ c.toNat && c.toNat ≠ 0x7f)

/-- A character that stands for itself between quotation marks. -/
def isBasicChar (c : Char) : Bool := isCommentChar c && c ≠ '"' && c ≠ '\\'

/-- A character that stands for itself between apostrophes. -/
def isLiteralChar (c : Char) : Bool := isCommentChar c && c ≠ '\''

/-- The text after a line end, if there is one here. -/
def newLine? : List Char → Option (List Char)
  | '\n' :: rest => some rest
  | '\r' :: '\n' :: rest => some rest
  | _ => none

/-- The value of a digit in a base of at most sixteen. -/
def digitIn? (base : Nat) (c : Char) : Option Nat :=
  let value? :=
    if c.isDigit then some (c.toNat - '0'.toNat)
    else if 'a' ≤ c ∧ c ≤ 'f' then some (c.toNat - 'a'.toNat + 10)
    else if 'A' ≤ c ∧ c ≤ 'F' then some (c.toNat - 'A'.toNat + 10)
    else none
  value?.filter (· < base)

/-! ## Strings -/

/-- The character that a two-character escape stands for. -/
def escaped? (c : Char) : Option Char :=
  if c = '"' ∨ c = '\\' then some c
  else if c = 'b' then some '\x08'
  else if c = 'f' then some '\x0c'
  else if c = 'n' then some '\n'
  else if c = 'r' then some '\r'
  else if c = 't' then some '\t'
  else none

/-- The character with a code point in hexadecimal digits. Surrogates are no characters. -/
def ofHex? (digits : List Char) : Option Char := do
  let value ← digits.foldlM (fun acc c => (digitIn? 16 c).map (acc * 16 + ·)) 0
  if value.isValidChar then some (Char.ofNat value) else none

/-- A character in front of the characters read after it. -/
def prepend (c : Char) (tail : List Char × List Char) : List Char × List Char :=
  (c :: tail.1, tail.2)

/-- The content of a string on one line up to its closing quotation mark. -/
def readBasic : List Char → Option (List Char × List Char)
  | [] => none
  | '"' :: rest => some ([], rest)
  | '\\' :: 'u' :: a :: b :: c :: d :: rest =>
    match ofHex? [a, b, c, d] with
    | some x => (readBasic rest).map (prepend x)
    | none => none
  | '\\' :: 'U' :: a :: b :: c :: d :: e :: f :: g :: h :: rest =>
    match ofHex? [a, b, c, d, e, f, g, h] with
    | some x => (readBasic rest).map (prepend x)
    | none => none
  | '\\' :: c :: rest =>
    match escaped? c with
    | some x => (readBasic rest).map (prepend x)
    | none => none
  | c :: rest => if isBasicChar c then (readBasic rest).map (prepend c) else none

/-- The content of a literal string on one line up to its closing apostrophe. -/
def readLiteral : List Char → Option (List Char × List Char)
  | [] => none
  | '\'' :: rest => some ([], rest)
  | c :: rest => if isLiteralChar c then (readLiteral rest).map (prepend c) else none

/-- The end of a string over several lines, from its third closing mark on: up to two marks more
belong to the content. -/
def closingMarks (mark : Char) (text : List Char) : Option (List Char × List Char) :=
  match (text.takeWhile (· = mark)).length with
  | 0 => some ([], text)
  | 1 => some ([mark], text.drop 1)
  | 2 => some ([mark, mark], text.drop 2)
  | _ => none

/-- Whether nothing but white space is left on a line that ends. -/
def endsLine (text : List Char) : Bool := (newLine? (skipSpace text)).isSome

/-- The content of a string over several lines up to its closing marks. While `skipping`, after a
backslash at the end of a line, white space and line ends are left out. -/
def readMultiBasic : Bool → List Char → Option (List Char × List Char)
  | _, [] => none
  | skipping, '\r' :: '\n' :: rest =>
    if skipping then readMultiBasic true rest else (readMultiBasic false rest).map (prepend '\n')
  | _, '"' :: '"' :: '"' :: rest => closingMarks '"' rest
  | _, '\\' :: 'u' :: a :: b :: c :: d :: rest =>
    match ofHex? [a, b, c, d] with
    | some x => (readMultiBasic false rest).map (prepend x)
    | none => none
  | _, '\\' :: 'U' :: a :: b :: c :: d :: e :: f :: g :: h :: rest =>
    match ofHex? [a, b, c, d, e, f, g, h] with
    | some x => (readMultiBasic false rest).map (prepend x)
    | none => none
  | _, '\\' :: c :: rest =>
    if endsLine (c :: rest) then readMultiBasic true (c :: rest)
    else
      match escaped? c with
      | some x => (readMultiBasic false rest).map (prepend x)
      | none => none
  | skipping, c :: rest =>
    if skipping && (isSpace c || c = '\n') then readMultiBasic true rest
    else if isBasicChar c || c = '\n' || c = '"' then (readMultiBasic false rest).map (prepend c)
    else none

/-- The content of a literal string over several lines up to its closing marks. -/
def readMultiLiteral : List Char → Option (List Char × List Char)
  | [] => none
  | '\r' :: '\n' :: rest => (readMultiLiteral rest).map (prepend '\n')
  | '\'' :: '\'' :: '\'' :: rest => closingMarks '\'' rest
  | c :: rest =>
    if isCommentChar c || c = '\n' then (readMultiLiteral rest).map (prepend c) else none

/-- A text without a line end at its start. -/
def dropNewLine (text : List Char) : List Char := (newLine? text).getD text

/-- A string in any of the four notations. -/
def readString : List Char → Option (List Char × List Char)
  | '"' :: '"' :: '"' :: rest => readMultiBasic false (dropNewLine rest)
  | '"' :: rest => readBasic rest
  | '\'' :: '\'' :: '\'' :: rest => readMultiLiteral (dropNewLine rest)
  | '\'' :: rest => readLiteral rest
  | _ => none

/-! ## Numbers -/

/-- Digits with single underscores between them, from the first digit on. -/
def readDigits (base : Nat) : List Char → Option (List Char × List Char)
  | [] => none
  | [c] => if (digitIn? base c).isSome then some ([c], []) else none
  | c :: '_' :: rest =>
    if (digitIn? base c).isSome then (readDigits base rest).map (prepend c) else none
  | c :: d :: rest =>
    if (digitIn? base c).isSome then
      if (digitIn? base d).isSome then (readDigits base (d :: rest)).map (prepend c)
      else some ([c], d :: rest)
    else none

/-- The number that digits stand for. -/
def digitsValue (base : Nat) (digits : List Char) : Nat :=
  digits.foldl (fun acc c => acc * base + (digitIn? base c).getD 0) 0

/-- An optional sign, and whether it is a minus. -/
def readSign : List Char → Bool × List Char
  | '-' :: rest => (true, rest)
  | '+' :: rest => (false, rest)
  | text => (false, text)

/-- Decimal digits without a leading zero. -/
def readDecimal : List Char → Option (List Char × List Char)
  | '0' :: rest => some (['0'], rest)
  | text => readDigits 10 text

/-- An integer of the signed 64-bit range. -/
def bounded? (value : Int) : Option Toml :=
  if -0x8000000000000000 ≤ value ∧ value ≤ 0x7fffffffffffffff then some (.integer value) else none

/-- An unsigned integer with a base mark in front. -/
def readBased (base : Nat) (text : List Char) : Option (Toml × List Char) := do
  let (digits, rest) ← readDigits base text
  let value ← bounded? (digitsValue base digits)
  return (value, rest)

/-- An integer. -/
def readInteger : List Char → Option (Toml × List Char)
  | '0' :: 'x' :: text => readBased 16 text
  | '0' :: 'o' :: text => readBased 8 text
  | '0' :: 'b' :: text => readBased 2 text
  | text => do
    let (negative, text) := readSign text
    let (digits, rest) ← readDecimal text
    let magnitude : Int := digitsValue 10 digits
    let value ← bounded? (if negative then -magnitude else magnitude)
    return (value, rest)

/-- Whether `mantissa * 10 ^ exponent` is too large for a double, that is, at least half a unit
above the largest finite one. -/
def overflowsDouble (mantissa : Nat) (exponent : Int) : Bool :=
  let places : Int := (Nat.toDigits 10 mantissa).length
  if mantissa = 0 ∨ places + exponent ≤ 308 then false
  else if 310 ≤ places + exponent then true
  else
    let bound := 1 <<< 1024 - 1 <<< 970
    if 0 ≤ exponent then bound ≤ mantissa * Nat.pow 10 exponent.toNat
    else bound * Nat.pow 10 (-exponent).toNat ≤ mantissa

/-- An optional fraction: a point and at least one digit. -/
def readFraction : List Char → Option (List Char × List Char)
  | '.' :: text => readDigits 10 text
  | text => some ([], text)

/-- An optional exponent with its sign, where `none` inside stands for its absence. -/
def readExponent : List Char → Option (Option Int × List Char)
  | 'e' :: text | 'E' :: text => do
    let (negative, text) := readSign text
    let (digits, rest) ← readDigits 10 text
    let magnitude : Int := digitsValue 10 digits
    return (some (if negative then -magnitude else magnitude), rest)
  | text => some (none, text)

/-- A number with a fraction or an exponent, or one of the special values. A positive number must
not be too large; a negative one may. -/
def readFloat (text : List Char) : Option (Toml × List Char) :=
  let (negative, unsigned) := readSign text
  match unsigned with
  | 'i' :: 'n' :: 'f' :: rest => some (.float, rest)
  | 'n' :: 'a' :: 'n' :: rest => some (.float, rest)
  | unsigned => do
    let (whole, rest) ← readDecimal unsigned
    let (places, rest) ← readFraction rest
    let (exponent?, rest) ← readExponent rest
    let mantissa := digitsValue 10 (whole ++ places)
    let exponent := exponent?.getD 0 - places.length
    if places = [] ∧ exponent? = none then none
    else if ¬negative ∧ overflowsDouble mantissa exponent then none
    else some (.float, rest)

/-! ## Dates and times -/

/-- A number of exactly `count` digits between two bounds. -/
def readField (count lo hi : Nat) (text : List Char) : Option (Nat × List Char) :=
  let digits := text.take count
  let value := Nat.ofDigitChars 10 digits 0
  if digits.length = count ∧ digits.all Char.isDigit ∧ lo ≤ value ∧ value ≤ hi then
    some (value, text.drop count)
  else
    none

/-- The text after an expected character. -/
def expect? (c : Char) : List Char → Option (List Char)
  | d :: rest => if c = d then some rest else none
  | [] => none

/-- The number of days in a month of the proleptic calendar. -/
def daysInMonth (year month : Nat) : Nat :=
  if month = 2 then
    if year % 4 = 0 ∧ (year % 100 ≠ 0 ∨ year % 400 = 0) then 29 else 28
  else if month ∈ [4, 6, 9, 11] then 30
  else 31

/-- A calendar date; the text after it. -/
def readDate (text : List Char) : Option (List Char) := do
  let (year, text) ← readField 4 0 9999 text
  let text ← expect? '-' text
  let (month, text) ← readField 2 1 12 text
  let text ← expect? '-' text
  let (_, text) ← readField 2 1 (daysInMonth year month) text
  return text

/-- A time of day with an optional fraction of a second; the text after it. -/
def readTime (text : List Char) : Option (List Char) := do
  let (_, text) ← readField 2 0 23 text
  let text ← expect? ':' text
  let (_, text) ← readField 2 0 59 text
  let text ← expect? ':' text
  let (_, text) ← readField 2 0 60 text
  match text with
  | '.' :: c :: rest => if c.isDigit then some (rest.dropWhile Char.isDigit) else some text
  | _ => some text

/-- An optional offset from universal time; the text after it. -/
def readOffset : List Char → Option (List Char)
  | 'Z' :: text | 'z' :: text => some text
  | '+' :: text | '-' :: text => do
    let (_, text) ← readField 2 0 23 text
    let text ← expect? ':' text
    let (_, text) ← readField 2 0 59 text
    return text
  | text => some text

/-- A date, a time of day, or both with an optional offset. -/
def readDateTime (text : List Char) : Option (Toml × List Char) :=
  match readDate text with
  | some rest =>
    match rest with
    | [] => some (.dateTime, [])
    | c :: time =>
      if c = 'T' ∨ c = 't' ∨ c = ' ' then
        match readTime time with
        | some rest => (readOffset rest).map fun rest => (.dateTime, rest)
        | none => some (.dateTime, c :: time)
      else
        some (.dateTime, c :: time)
  | none => (readTime text).map fun rest => (.dateTime, rest)

/-! ## Scalars -/

/-- A scalar. Strings start with a mark, truth values with their letter, and all else is tried as a
date, as a number with a fraction, and as an integer, in this order. -/
def readScalar : List Char → Option (Toml × List Char)
  | 't' :: 'r' :: 'u' :: 'e' :: rest => some (.boolean true, rest)
  | 'f' :: 'a' :: 'l' :: 's' :: 'e' :: rest => some (.boolean false, rest)
  | '"' :: rest =>
    (readString ('"' :: rest)).map fun (text, rest) => (.string (String.ofList text), rest)
  | '\'' :: rest =>
    (readString ('\'' :: rest)).map fun (text, rest) => (.string (String.ofList text), rest)
  | text => readDateTime text <|> readFloat text <|> readInteger text

end SoftClock.Toml
