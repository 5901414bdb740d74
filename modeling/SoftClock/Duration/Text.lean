import SoftClock.Duration.Basic
import SoftClock.Text.Blank
import SoftClock.Text.Integer

/-!
# Durations as Text

Durations are written as counts of named units, such as `1h 30m` or `2years 3months 4days`.

* `Duration.format` writes every unit whose count is not zero, from years down to nanoseconds, and
  `0s` for the empty span. A year is 365.25 days and a month 30.44 days.
* `Duration.parse?` adds up any sequence of counts with units. Counts may have a decimal fraction,
  if it comes out in whole nanoseconds, or in whole seconds for hours and longer units. White space
  is skipped before and inside a count and ends a unit, and every intermediate value has to fit
  64 bits.
-/

namespace SoftClock.Duration

/-- A unit of time. -/
inductive TimeUnit where
  | nanosecond
  | microsecond
  | millisecond
  | second
  | minute
  | hour
  | day
  | week
  | month
  | year
  deriving DecidableEq, Repr

namespace TimeUnit

/-- Every unit, shortest first. -/
def all : List TimeUnit :=
  [.nanosecond, .microsecond, .millisecond, .second, .minute, .hour, .day, .week, .month, .year]

/-- The accepted spellings. -/
def spellings : TimeUnit → List String
  | .nanosecond => ["nanos", "nsec", "ns"]
  | .microsecond => ["usec", "us", "µs"]
  | .millisecond => ["millis", "msec", "ms"]
  | .second => ["seconds", "second", "secs", "sec", "s"]
  | .minute => ["minutes", "minute", "mins", "min", "m"]
  | .hour => ["hours", "hour", "hrs", "hr", "h"]
  | .day => ["days", "day", "d"]
  | .week => ["weeks", "week", "wks", "wk", "w"]
  | .month => ["months", "month", "M"]
  | .year => ["years", "year", "yrs", "yr", "y"]

/-- Length in nanoseconds. -/
def nanos : TimeUnit → Nat
  | .nanosecond => 1
  | .microsecond => 1000
  | .millisecond => 1000000
  | .second => 1000000000
  | .minute => 60 * 1000000000
  | .hour => 3600 * 1000000000
  | .day => 86400 * 1000000000
  | .week => 604800 * 1000000000
  | .month => 2630016 * 1000000000
  | .year => 31557600 * 1000000000

/-- The grain in which a unit's fraction is counted: nanoseconds up to the minute, whole seconds
from the hour on. -/
def fractionGrain : TimeUnit → Nat
  | .nanosecond | .microsecond | .millisecond | .second | .minute => 1
  | .hour | .day | .week | .month | .year => 1000000000

/-- The grain in which a unit's whole count is kept: nanoseconds below the second, else seconds. -/
def wholeGrain : TimeUnit → Nat
  | .nanosecond | .microsecond | .millisecond => 1
  | .second | .minute | .hour | .day | .week | .month | .year => 1000000000

/-- The unit that a text spells. -/
def parse? (text : List Char) : Option TimeUnit :=
  all.find? fun unit => unit.spellings.any fun spelling => spelling.toList == text

end TimeUnit

/-! ## Writing -/

/-- A count with its unit, or nothing for a zero count. -/
def item (count : Nat) (unit : String) : Option (List Char) :=
  if count = 0 then none else some (Text.natChars count ++ unit.toList)

/-- A count with a unit that takes a plural, or nothing for a zero count. -/
def pluralItem (count : Nat) (unit : String) : Option (List Char) :=
  item count (if count = 1 then unit else unit ++ "s")

/-- The counts of a duration, longest unit first. -/
def items (d : Duration) : List (List Char) :=
  let daySecs := d.secs % 31557600 % 2630016 % 86400
  let sub := d.subsecNanos
  [pluralItem (d.secs / 31557600) "year",
    pluralItem (d.secs % 31557600 / 2630016) "month",
    pluralItem (d.secs % 31557600 % 2630016 / 86400) "day",
    item (daySecs / 3600) "h",
    item (daySecs % 3600 / 60) "m",
    item (daySecs % 60) "s",
    item (sub / 1000000) "ms",
    item (sub / 1000 % 1000) "us",
    item (sub % 1000) "ns"].filterMap id

/-- The text of a duration. -/
def format (d : Duration) : String :=
  if d.nanos = 0 then "0s" else String.ofList ([' '].intercalate d.items)

/-! ## Reading -/

/-- Whether a character can stand in the name of a unit. -/
def isUnitLetter (c : Char) : Bool := c.isAlpha || c = 'µ'

/-- The value, unless it needs more than 64 bits. -/
def word? (n : Nat) : Option Nat := if n < 0x10000000000000000 then some n else none

/-- Continue a whole number over digits and white space; the rest starts at the first other
character. -/
def wholePart (acc : Nat) : List Char → Option (Nat × List Char)
  | [] => some (acc, [])
  | c :: rest =>
    if c.isDigit then
      (word? (acc * 10 + Text.digitValue c)).bind fun acc => wholePart acc rest
    else if Text.isBlank c then
      wholePart acc rest
    else
      some (acc, c :: rest)

/-- A decimal fraction below one. -/
structure Fraction where
  numerator : Nat
  denominator : Nat
  deriving DecidableEq, Repr

/-- Continue a fraction over digits and white space; the rest starts at the first other character.
Both terms have to fit 64 bits. -/
def fractionPart (acc : Fraction) : List Char → Option (Fraction × List Char)
  | [] => some (acc, [])
  | c :: rest =>
    if c.isDigit then
      (word? (acc.numerator * 10 + Text.digitValue c)).bind fun numerator =>
        (word? (acc.denominator * 10)).bind fun denominator =>
          fractionPart ⟨numerator, denominator⟩ rest
    else if Text.isBlank c then
      fractionPart acc rest
    else
      some (acc, c :: rest)

/-- A count: a whole number, and a fraction where a point and at least one digit follow. -/
def countPart (text : List Char) : Option (Nat × Option Fraction × List Char) :=
  match wholePart 0 text with
  | some (whole, '.' :: rest) =>
    match fractionPart ⟨0, 1⟩ rest with
    | some (fraction, rest) =>
      if fraction.denominator = 1 then none else some (whole, some fraction, rest)
    | none => none
  | some (whole, rest) => some (whole, none, rest)
  | none => none

/-- The span with `nanos` below-second nanoseconds and `secs` seconds added. The nanoseconds are
summed in 64 bits before they carry. -/
def add? (total : Duration) (secs nanos : Nat) : Option Duration :=
  (word? (total.subsecNanos + nanos)).bind fun _ =>
    ofNanos? (total.nanos + secs * 1000000000 + nanos)

/-- The span with an amount of nanoseconds added, kept in whole grains of `grain` nanoseconds. -/
def addGrains? (total : Duration) (grain count : Nat) : Option Duration :=
  if grain = 1 then total.add? 0 count else total.add? count 0

/-- The span with a whole count of units added. -/
def addWhole? (total : Duration) (count : Nat) (unit : TimeUnit) : Option Duration :=
  (word? (count * (unit.nanos / unit.wholeGrain))).bind (total.addGrains? unit.wholeGrain)

/-- The span with a fraction of a unit added. The fraction must be a whole number of the unit's
grains, since nothing is rounded; a nanosecond has no fractions. -/
def addFraction? (total : Duration) (fraction : Fraction) (unit : TimeUnit) : Option Duration :=
  if unit = .nanosecond then none
  else
    (word? (fraction.numerator * (unit.nanos / unit.fractionGrain))).bind fun scaled =>
      if scaled % fraction.denominator = 0 then
        total.addGrains? unit.fractionGrain (scaled / fraction.denominator)
      else
        none

/-- The span with one item added. -/
def addItem? (total : Duration) (count : Nat) (fraction? : Option Fraction) (unit : TimeUnit) :
    Option Duration :=
  (total.addWhole? count unit).bind fun total =>
    match fraction? with
    | none => some total
    | some fraction => total.addFraction? fraction unit

/-- Add up the items of a text. Each starts with a digit after optional white space, and its unit
ends at white space, at the next digit, or at the end. -/
def readItems : Nat → Duration → List Char → Option Duration
  | 0, _, _ => none
  | fuel + 1, total, text =>
    match text.dropWhile Text.isBlank with
    | [] => some total
    | c :: rest =>
      if c.isDigit then
        match countPart (c :: rest) with
        | none => none
        | some (count, fraction?, rest) =>
          match TimeUnit.parse? (rest.takeWhile isUnitLetter) with
          | none => none
          | some unit =>
            match total.addItem? count fraction? unit with
            | none => none
            | some total =>
              match rest.dropWhile isUnitLetter with
              | [] => some total
              | c :: rest =>
                if c.isDigit || Text.isBlank c then readItems fuel total (c :: rest) else none
      else
        none

/-- Read a duration: a lone `0`, or at least one count with a unit. -/
def parse? (text : String) : Option Duration :=
  if text = "0" then some zero
  else if text.toList.all Text.isBlank then none
  else readItems (text.toList.length + 1) zero text.toList

end SoftClock.Duration
