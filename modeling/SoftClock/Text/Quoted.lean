import SoftClock.Text.Unprintable

/-!
# Quoted Text

A text between quotation marks, as messages show it: the usual two-character escapes for NUL, tab,
newline, carriage return, quotation mark and backslash; `\u{…}` with the lower-case hexadecimal code
point for every other character that cannot be seen by itself; all else unchanged.
-/

namespace SoftClock.Text

/-- Lower-case hexadecimal digits of a natural number, without leading zeros. -/
def hexChars (n : Nat) : List Char := Nat.toDigits 16 n

/-- A character as it stands between quotation marks. -/
def quotedChar (c : Char) : List Char :=
  if c = '\x00' then ['\\', '0']
  else if c = '\t' then ['\\', 't']
  else if c = '\n' then ['\\', 'n']
  else if c = '\r' then ['\\', 'r']
  else if c = '"' || c = '\\' then ['\\', c]
  else if isUnprintable c then ['\\', 'u', '\x7b'] ++ hexChars c.toNat ++ ['\x7d']
  else [c]

/-- A text between quotation marks. -/
def quoted (text : List Char) : List Char :=
  '"' :: text.flatMap quotedChar ++ ['"']

end SoftClock.Text
