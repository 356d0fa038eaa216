import LintFixture.Entries
import LintFixture.Toml.Lexeme
import LintFixture.Value

/-!
# The tables of a TOML document

A document is built by opening tables and setting keys. A table may be opened by one header only,
and values written in one piece, inline tables and arrays, cannot be added to later.
-/

namespace LintFixture.Toml

/-- The keys of a table with their values, in order. -/
abbrev Table := List (String × Value)

/-- Changes the table at a key; tables on the way are made. With `intoLists`, a list of tables
stands for its last one. -/
def changeAt? (intoLists : Bool) (change : Table → Option Table) : Key → Table → Option Table
  | [], table => change table
  | name :: rest, table =>
    match table.lookup name with
    | none => (changeAt? intoLists change rest []).map fun t => insertEntry table name (.mapping t)
    | some (.mapping below) =>
      (changeAt? intoLists change rest below).map fun t => insertEntry table name (.mapping t)
    | some (.list items) =>
      match intoLists, items.getLast? with
      | true, some (.mapping below) =>
        (changeAt? intoLists change rest below).map fun t =>
          insertEntry table name (.list (items.dropLast ++ [.mapping t]))
      | _, _ => none
    | some _ => none

/-- Adds a key that a table does not have. -/
def addKey? (name : String) (v : Value) (table : Table) : Option Table :=
  if (table.lookup name).isSome then none else some (table ++ [(name, v)])

/-- Adds an empty table to the list of tables at a key of a table. -/
def addToList? (name : String) (table : Table) : Option Table :=
  match table.lookup name with
  | none => some (table ++ [(name, .list [.mapping []])])
  | some (.list items) => some (insertEntry table name (.list (items ++ [.mapping []])))
  | some _ => none

/-- A value that is written in one piece. -/
def isCompound : Value → Bool
  | .mapping _ => true
  | .list _ => true
  | _ => false

/-- A document as far as it is read. -/
structure Document where
  table : Table
  /-- The table that keys are set in. -/
  header : Key
  /-- The tables that no header may open again. -/
  declared : List Key
  /-- The tables that dotted keys made since the last header; they count as declared from the
  next header on. -/
  pending : List Key
  /-- The values that cannot be added to. -/
  frozen : List Key

namespace Document

/-- The empty document. -/
def empty : Document := ⟨[], [], [], [], []⟩

/-- A key lies in a value that cannot be added to. -/
def isFrozen (frozen : List Key) (key : Key) : Bool :=
  frozen.any fun f => f.isPrefixOf key

/-- Ends the section of the last header. -/
def closeSection (d : Document) : Document :=
  { d with declared := d.pending ++ d.declared, pending := [] }

/-- Opens the table of a header. -/
def openTable? (d : Document) (key : Key) : Option Document :=
  if d.declared.contains key || isFrozen d.frozen key then none
  else
    (changeAt? true some key d.table).map fun table =>
      { d with table := table, header := key, declared := key :: d.declared }

/-- Opens a further table of a list of tables. What lay below the one before may be declared
again. -/
def openListItem? (d : Document) (key : Key) : Option Document :=
  if isFrozen d.frozen key then none
  else
    let outside (k : Key) : Bool := !key.isPrefixOf k
    (changeAt? true (addToList? (key.getLastD "")) key.dropLast d.table).map fun table =>
      { d with
        table := table
        header := key
        declared := key :: d.declared.filter outside
        frozen := d.frozen.filter outside }

/-- Sets a key below the last header. -/
def set? (d : Document) (key : Key) (v : Value) : Option Document :=
  let containers := (List.range (key.length - 1)).map fun n => d.header ++ key.take (n + 1)
  let parent := d.header ++ key.dropLast
  if containers.any d.declared.contains || isFrozen d.frozen parent then none
  else
    (changeAt? true (addKey? (key.getLastD "") v) parent d.table).map fun table =>
      { d with
        table := table
        pending := containers ++ d.pending
        frozen := if isCompound v then (d.header ++ key) :: d.frozen else d.frozen }

end Document

end LintFixture.Toml
