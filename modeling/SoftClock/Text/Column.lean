/-!
# Columns of Text

Filling a text up to the width of a column, counted in characters. A wider text is left as it is.
-/

namespace SoftClock.Text

/-- A text filled with spaces on its right. -/
def padRight (width : Nat) (text : String) : String :=
  text ++ String.ofList (List.replicate (width - text.length) ' ')

/-- A text filled with spaces on its left. -/
def padLeft (width : Nat) (text : String) : String :=
  String.ofList (List.replicate (width - text.length) ' ') ++ text

end SoftClock.Text
