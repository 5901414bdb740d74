/-!
# Decimal Integers

Reading and writing whole numbers in base ten.

* `readInteger` accepts an optional sign followed by at least one ASCII digit, and nothing else;
* `readNatural` is the same without the minus sign;
* a refusal carries its cause, found by scanning from the left: the first offending position
  decides between a character that is no digit and a value out of range.
-/

namespace SoftClock.Text

/-- Why a text is not an integer of the wanted range. -/
inductive IntegerFault where
  | empty
  | invalidDigit
  | tooLarge
  | tooSmall
  deriving DecidableEq, Repr

/-- The wording of a refusal. -/
def IntegerFault.message : IntegerFault → String
  | .empty => "cannot parse integer from empty string"
  | .invalidDigit => "invalid digit found in string"
  | .tooLarge => "number too large to fit in target type"
  | .tooSmall => "number too small to fit in target type"

/-- The value of an ASCII digit. -/
def digitValue (c : Char) : Nat := c.toNat - '0'.toNat

/-- Continue the magnitude `acc` with the digits of a text, refusing values beyond `limit`. -/
def readDigits (limit : Nat) (beyond : IntegerFault) (acc : Nat) :
    List Char → Except IntegerFault Nat
  | [] => .ok acc
  | c :: rest =>
    if c.isDigit then
      if acc * 10 + digitValue c ≤ limit then
        readDigits limit beyond (acc * 10 + digitValue c) rest
      else
        .error beyond
    else
      .error .invalidDigit

/-- Read a signed integer between `lo` and `hi`, where `lo ≤ 0 ≤ hi`. -/
def readInteger (lo hi : Int) : List Char → Except IntegerFault Int
  | [] => .error .empty
  | '+' :: digits =>
    if digits.isEmpty then .error .invalidDigit
    else (readDigits hi.toNat .tooLarge 0 digits).map Int.ofNat
  | '-' :: digits =>
    if digits.isEmpty then .error .invalidDigit
    else (readDigits (-lo).toNat .tooSmall 0 digits).map fun n => -(n : Int)
  | digits => (readDigits hi.toNat .tooLarge 0 digits).map Int.ofNat

/-- Read an unsigned integer of at most `hi`; a plus sign may stand in front. -/
def readNatural (hi : Nat) : List Char → Except IntegerFault Nat
  | [] => .error .empty
  | '+' :: digits =>
    if digits.isEmpty then .error .invalidDigit else readDigits hi .tooLarge 0 digits
  | digits => readDigits hi .tooLarge 0 digits

/-- The shortest decimal text of a natural number. -/
def natChars (n : Nat) : List Char := Nat.toDigits 10 n

/-- The shortest decimal text of an integer; negative values carry a minus sign. -/
def intChars : Int → List Char
  | .ofNat n => natChars n
  | .negSucc n => '-' :: natChars (n + 1)

/-- The decimal text of an integer as a string. -/
def decimal (i : Int) : String := String.ofList (intChars i)

/-- Decimal text filled with zeros to `width` characters; a sign counts and stays in front. -/
def zeroFilled (width : Nat) : Int → List Char
  | .ofNat n => (natChars n).leftpad width '0'
  | .negSucc n => '-' :: (natChars (n + 1)).leftpad (width - 1) '0'

end SoftClock.Text
