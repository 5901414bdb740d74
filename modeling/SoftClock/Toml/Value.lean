/-!
# TOML Values and Tables

The values of the TOML configuration format, and the rules by which keys and headers add to a
document.

* A dotted key makes the tables on its way. It may extend tables that dotted keys made, but none
  that has a header of its own.
* A header makes the tables on its way, which may get their own header later, once.
* Nothing can be added to a value, to a table written in braces, or under a key already in use.

Of numbers with a fraction and of dates only the kind is kept; their spelling is checked when they
are read.
-/

namespace SoftClock

/-- How a table came to be, which decides what may be added to it. -/
inductive TomlOrigin where
  /-- The document itself, or a table with a header of its own. -/
  | header
  /-- A table named only on the way to others, in a header. -/
  | implied
  /-- A table made by a dotted key. -/
  | dotted
  /-- A table written in braces. -/
  | braces
  deriving DecidableEq, Repr

/-- A TOML value. Tables keep their entries in the order in which they were added. -/
inductive Toml where
  | string (text : String)
  | integer (value : Int)
  | float
  | boolean (value : Bool)
  | dateTime
  | array (items : List Toml)
  | table (origin : TomlOrigin) (entries : List (String × Toml))
  /-- The tables of a repeated header in double brackets, the latest last. -/
  | tables (list : List (List (String × Toml)))

/-- The entries of a table. -/
abbrev TomlEntries := List (String × Toml)

namespace Toml

/-- Whether a value is an array or a table without content. -/
def isEmptyCollection : Toml → Bool
  | .array items => items.isEmpty
  | .table _ entries => entries.isEmpty
  | .tables list => list.isEmpty
  | .string _ | .integer _ | .float | .boolean _ | .dateTime => false

end Toml

namespace TomlEntries

/-- The entries with the value of a key replaced in place. -/
def replace (key : String) (value : Toml) (entries : TomlEntries) : TomlEntries :=
  entries.map fun entry => if entry.1 = key then (key, value) else entry

/-- Follow a path from a table, making missing tables, and change the table at its end. `dotted`
tells dotted keys from headers. Through a repeated header the path leads into the latest table. -/
def descend (dotted : Bool) (change : TomlOrigin → TomlEntries → Option TomlEntries) :
    List String → TomlOrigin → TomlEntries → Option TomlEntries
  | [], origin, entries => change origin entries
  | key :: path, _, entries =>
    match entries.lookup key with
    | none =>
      let origin := if dotted then TomlOrigin.dotted else .implied
      (descend dotted change path origin []).map fun inner =>
        entries ++ [(key, .table origin inner)]
    | some (.table origin inner) =>
      if origin = .braces ∨ (dotted = true ∧ origin = .header) then none
      else
        (descend dotted change path origin inner).map fun inner =>
          replace key (.table origin inner) entries
    | some (.tables list) =>
      match list.reverse with
      | [] => none
      | latest :: earlier =>
        (descend dotted change path .header latest).map fun latest =>
          replace key (.tables (latest :: earlier).reverse) entries
    | some _ => none

/-- Add a value under a dotted key. A key with several parts must end in a table of dotted keys. -/
def insert (path : List String) (key : String) (value : Toml) (entries : TomlEntries) :
    Option TomlEntries :=
  descend true (fun origin inner =>
    if (origin == .dotted) == path.isEmpty then none
    else if (inner.lookup key).isSome then none
    else some (inner ++ [(key, value)])) path .header entries

end TomlEntries

/-- A document while it is read: the table under the latest header is kept apart until the next
header or the end. -/
structure TomlDraft where
  /-- Everything above the latest header. -/
  root : TomlEntries := []
  /-- The latest header, without its last key; `none` above the first header. -/
  header : Option (List String × String) := none
  /-- Whether the latest header is in double brackets. -/
  repeated : Bool := false
  /-- The entries under the latest header. -/
  current : TomlEntries := []

namespace TomlDraft

/-- Add a value under a dotted key to the table under the latest header. -/
def addEntry (path : List String) (key : String) (value : Toml) (d : TomlDraft) :
    Option TomlDraft :=
  (TomlEntries.insert path key value d.current).map fun current => { d with current }

/-- Everything read so far, with the table under the latest header in its place. -/
def finish (d : TomlDraft) : Option TomlEntries :=
  match d.header with
  | none => some d.current
  | some (path, key) =>
    TomlEntries.descend false (fun _ inner =>
      match inner.lookup key, d.repeated with
      | some (.tables list), true =>
        some (TomlEntries.replace key (.tables (list ++ [d.current])) inner)
      | none, false => some (inner ++ [(key, .table .header d.current)])
      | _, _ => none) path .header d.root

/-- The entries under a key that a header may take over: those of a table that other headers
implied, or none. -/
def takeOver? (key : String) (entries : TomlEntries) : Option TomlEntries :=
  match entries.lookup key with
  | none => some []
  | some (.table .implied inner) => some inner
  | some _ => none

/-- The table at the end of a header's path, once the path has been made. -/
def entriesAt : List String → TomlEntries → TomlEntries
  | [], entries => entries
  | key :: path, entries =>
    match entries.lookup key with
    | some (.table _ inner) => entriesAt path inner
    | some (.tables list) => entriesAt path (list.getLast?.getD [])
    | _ => []

/-- Start the table of a header in single brackets. Tables that earlier headers implied under that
name move into it. -/
def startTable (path : List String) (key : String) (d : TomlDraft) : Option TomlDraft := do
  let root ← d.finish
  let root ← TomlEntries.descend false (fun _ inner => some inner) path .header root
  let current ← takeOver? key (entriesAt path root)
  let root ← TomlEntries.descend false
    (fun _ inner => some (inner.filter fun entry => entry.1 ≠ key)) path .header root
  return { root, header := some (path, key), repeated := false, current }

/-- Start a table of a header in double brackets. -/
def startRepeated (path : List String) (key : String) (d : TomlDraft) : Option TomlDraft := do
  let root ← d.finish
  let root ← TomlEntries.descend false (fun _ inner =>
    match inner.lookup key with
    | none => some (inner ++ [(key, .tables [])])
    | some (.tables _) => some inner
    | some _ => none) path .header root
  return { root, header := some (path, key), repeated := true, current := [] }

end TomlDraft

end SoftClock
