import SoftClock.Toml.Scalar

/-!
# TOML Documents

Reading a whole document: lines with a key and a value, headers in single or double brackets,
comments and blank lines. Arrays may span lines and end in a comma; tables in braces stand on one
line. A mark of the byte order at the start is skipped. Keys of eighty parts and values nested
eighty deep are refused.
-/

namespace SoftClock.Toml

/-- The depth of nesting and the number of key parts that are refused. -/
def depthLimit : Nat := 80

/-! ## Keys -/

/-- A character of a key without quotation marks. -/
def isBareKeyChar (c : Char) : Bool := c.isAlphanum || c = '_' || c = '-'

/-- One part of a key. -/
def readKeyPart : List Char → Option (String × List Char)
  | '"' :: text => (readBasic text).map fun (key, rest) => (String.ofList key, rest)
  | '\'' :: text => (readLiteral text).map fun (key, rest) => (String.ofList key, rest)
  | text =>
    let key := text.takeWhile isBareKeyChar
    if key.isEmpty then none else some (String.ofList key, text.dropWhile isBareKeyChar)

/-- The parts of a dotted key, with white space around each. -/
def readKeyParts : Nat → List Char → Option (List String × List Char)
  | 0, _ => none
  | parts + 1, text =>
    match readKeyPart (skipSpace text) with
    | none => none
    | some (part, rest) =>
      match skipSpace rest with
      | '.' :: rest => (readKeyParts parts rest).map fun (more, rest) => (part :: more, rest)
      | rest => some ([part], rest)

/-- A dotted key, as the path to its last part and that part. -/
def readKey (text : List Char) : Option (List String × String × List Char) :=
  match readKeyParts (depthLimit - 1) text with
  | some (parts, rest) => parts.getLast?.map fun last => (parts.dropLast, last, rest)
  | none => none

/-! ## Values -/

/-- A text without leading white space, line ends and comments; a comment must end with its line. -/
def skipBlank : List Char → Option (List Char)
  | text => go text.length text
where
  /-- The same with a bound on the number of comments and line ends. -/
  go : Nat → List Char → Option (List Char)
    | 0, text => some (skipSpace text)
    | fuel + 1, text =>
      match skipSpace text with
      | '#' :: rest =>
        match newLine? (rest.dropWhile isCommentChar) with
        | some rest => go fuel rest
        | none => none
      | text =>
        match newLine? text with
        | some rest => go fuel rest
        | none => some text

mutual

/-- A value at a depth of nesting. The fuel bounds the number of values that are read. -/
def readValue : Nat → Nat → List Char → Option (Toml × List Char)
  | 0, _, _ => none
  | fuel + 1, depth, text =>
    match text with
    | '[' :: rest =>
      if depth + 1 < depthLimit then
        (readItems fuel (depth + 1) rest).map fun (items, rest) => (.array items, rest)
      else none
    | '\x7b' :: rest =>
      if depth + 1 < depthLimit then
        match skipSpace rest with
        | '\x7d' :: rest => some (.table .braces [], rest)
        | rest =>
          (readPairs fuel (depth + 1) [] rest).map fun (entries, rest) =>
            (.table .braces entries, rest)
      else none
    | text => readScalar text

/-- The items of an array up to its closing bracket. -/
def readItems : Nat → Nat → List Char → Option (List Toml × List Char)
  | 0, _, _ => none
  | fuel + 1, depth, text =>
    match skipBlank text with
    | none => none
    | some (']' :: rest) => some ([], rest)
    | some text =>
      match readValue fuel depth text with
      | none => none
      | some (item, rest) =>
        match skipBlank rest with
        | some (',' :: rest) =>
          (readItems fuel depth rest).map fun (items, rest) => (item :: items, rest)
        | some (']' :: rest) => some ([item], rest)
        | _ => none

/-- The entries of a table in braces up to its closing brace, added to those before. -/
def readPairs : Nat → Nat → TomlEntries → List Char → Option (TomlEntries × List Char)
  | 0, _, _, _ => none
  | fuel + 1, depth, entries, text =>
    match readKey text with
    | some (path, key, '=' :: rest) =>
      match readValue fuel depth (skipSpace rest) with
      | none => none
      | some (value, rest) =>
        match TomlEntries.insert path key value entries with
        | none => none
        | some entries =>
          match skipSpace rest with
          | ',' :: rest => readPairs fuel depth entries rest
          | '\x7d' :: rest => some (entries, rest)
          | _ => none
    | _ => none

end

/-! ## Lines -/

/-- The text after the rest of a line, which may hold white space and a comment. -/
def endLine? (text : List Char) : Option (List Char) :=
  let text :=
    match skipSpace text with
    | '#' :: rest => rest.dropWhile isCommentChar
    | text => text
  if text.isEmpty then some [] else newLine? text

/-- A header after its opening brackets, up to the end of its line. -/
def readHeader (closing : List Char) (text : List Char) :
    Option (List String × String × List Char) :=
  match readKey text with
  | some (path, key, rest) =>
    match closing.isPrefixOf? rest with
    | some rest => (endLine? rest).map fun rest => (path, key, rest)
    | none => none
  | none => none

/-- A line with a key and a value. -/
def readEntry (fuel : Nat) (text : List Char) :
    Option (List String × String × Toml × List Char) :=
  match readKey text with
  | some (path, key, '=' :: rest) =>
    match readValue fuel 0 (skipSpace rest) with
    | some (value, rest) => (endLine? rest).map fun rest => (path, key, value, rest)
    | none => none
  | _ => none

/-- The lines of a document, added to what was read before. -/
def readLines : Nat → TomlDraft → List Char → Option TomlDraft
  | 0, _, _ => none
  | fuel + 1, draft, text =>
    match skipSpace text with
    | [] => some draft
    | '#' :: rest =>
      match endLine? ('#' :: rest) with
      | some rest => readLines fuel draft rest
      | none => none
    | '\n' :: rest => readLines fuel draft rest
    | '\r' :: '\n' :: rest => readLines fuel draft rest
    | '[' :: '[' :: rest =>
      match readHeader [']', ']'] rest with
      | some (path, key, rest) =>
        match draft.startRepeated path key with
        | some draft => readLines fuel draft rest
        | none => none
      | none => none
    | '[' :: rest =>
      match readHeader [']'] rest with
      | some (path, key, rest) =>
        match draft.startTable path key with
        | some draft => readLines fuel draft rest
        | none => none
      | none => none
    | text =>
      match readEntry fuel text with
      | some (path, key, value, rest) =>
        match draft.addEntry path key value with
        | some draft => readLines fuel draft rest
        | none => none
      | none => none

/-- A text without a mark of the byte order at its start. -/
def dropByteOrderMark : List Char → List Char
  | '\ufeff' :: text => text
  | text => text

/-- The entries of a document. -/
def parse? (text : String) : Option TomlEntries :=
  let chars := dropByteOrderMark text.toList
  (readLines (chars.length + 2) {} chars).bind TomlDraft.finish

end SoftClock.Toml
