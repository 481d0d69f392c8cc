import LinkRouting.Toml.Value

/-!
# Assembling TOML tables

The tables of a document are put together from lines that may name the same table more than once,
and TOML says which of that is allowed.  While they are put together, each table remembers its
`Origin`:

* a table with a **header** of its own, or written between braces, is complete: no second header may
  name it, and no dotted key may add to it;
* a table that was only passed on the way of a **header path** may still get a header;
* a table made by a **dotted key** may be added to by other dotted keys, and gets no header.

A key is set once.  The last of an array of tables is the one that paths lead into.
-/

namespace LinkRouting
namespace Toml

/-- How a table came to be. -/
inductive Origin where
  | header
  | headerPath
  | dottedKey
  deriving DecidableEq, Repr

/-- What a name stands for while a document is put together. -/
inductive Node where
  | leaf (value : Value)
  | table (origin : Origin) (entries : List (String × Node))
  | tables (items : List (List (String × Node)))
  deriving Inhabited

/-- The names of a table and what they stand for. -/
abbrev Entries := List (String × Node)

namespace Node

mutual

/-- The finished value of a node. -/
def toValue : Node → Value
  | .leaf v => v
  | .table _ entries => .table (entriesToValues entries)
  | .tables items => .array (itemsToValues items)

/-- The finished entries of a table. -/
def entriesToValues : List (String × Node) → List (String × Value)
  | [] => []
  | (name, node) :: entries => (name, toValue node) :: entriesToValues entries

/-- The finished tables of an array. -/
def itemsToValues : List (List (String × Node)) → List Value
  | [] => []
  | entries :: items => .table (entriesToValues entries) :: itemsToValues items

end

/-- What a name stands for in a table. -/
def find? (name : String) : Entries → Option Node
  | [] => none
  | (n, node) :: entries => if n = name then some node else find? name entries

/-- The table with a name given another meaning. -/
def replace (name : String) (node : Node) (entries : Entries) : Entries :=
  entries.map fun e => if e.1 = name then (name, node) else e

/-- Changes the table to which a path leads, making tables that are missing on the way.  Dotted keys
do not lead into tables that have a header. -/
def alter (dotted : Bool) (change : Origin → Entries → Option Entries) :
    List String → Origin → Entries → Option Entries
  | [], origin, entries => change origin entries
  | name :: path, _, entries =>
    match find? name entries with
    | none =>
      let origin := if dotted then .dottedKey else .headerPath
      (alter dotted change path origin []).map fun es => entries ++ [(name, .table origin es)]
    | some (.leaf _) => none
    | some (.table origin inner) =>
      if dotted && origin = .header then none
      else (alter dotted change path origin inner).map fun es =>
        replace name (.table origin es) entries
    | some (.tables items) =>
      match items.getLast? with
      | none => none
      | some last => (alter dotted change path .header last).map fun es =>
        replace name (.tables (items.dropLast ++ [es])) entries

/-- Sets the value of a key, given by its parts, in a table. -/
def assign (key : List String) (value : Value) (origin : Origin) (entries : Entries) :
    Option Entries :=
  match key.getLast? with
  | none => none
  | some name =>
    alter true (fun origin es =>
      if (origin = .dottedKey) = (key.length ≤ 1) then none
      else if (find? name es).isSome then none
      else some (es ++ [(name, .leaf value)])) key.dropLast origin entries

/-- Opens the table that a header names. -/
def openTable (key : List String) (entries : Entries) : Option Entries :=
  match key.getLast? with
  | none => none
  | some name =>
    alter false (fun _ es =>
      match find? name es with
      | none => some (es ++ [(name, .table .header [])])
      | some (.table .headerPath inner) => some (replace name (.table .header inner) es)
      | some _ => none) key.dropLast .header entries

/-- Adds a table to the array that a header names. -/
def openItem (key : List String) (entries : Entries) : Option Entries :=
  match key.getLast? with
  | none => none
  | some name =>
    alter false (fun _ es =>
      match find? name es with
      | none => some (es ++ [(name, .tables [[]])])
      | some (.tables items) => some (replace name (.tables (items ++ [[]])) es)
      | some _ => none) key.dropLast .header entries

end Node
end Toml
end LinkRouting
