import ProviderHub.Toml.Basic

/-!
Tables that are being read.

* `Toml.Node`: a part of a document, with how each table came about;
* `Toml.setDotted`: sets a dotted key, once;
* `Toml.Node.toToml`: the value in the end.
-/

namespace ProviderHub.Toml

/-- How a table came about. -/
inductive Origin where
  /-- On the way to the table of a header. -/
  | passing
  /-- By its own header. -/
  | header
  /-- By dotted keys. -/
  | dotted
deriving Repr, DecidableEq

/-- A part of a document that is being read. -/
inductive Node where
  | leaf (value : Toml)
  | table (origin : Origin) (entries : List (String × Node))
  /-- Tables of one array header, oldest first. -/
  | tables (items : List (List (String × Node)))
deriving Repr

/-- Entries of a table that is being read. -/
abbrev Entries := List (String × Node)

/-- Sets the node under a key. -/
def setNode (key : String) (node : Node) : Entries → Entries
  | [] => [(key, node)]
  | (k, v) :: rest => if k = key then (key, node) :: rest else (k, v) :: setNode key node rest

/-- Sets a dotted key. A table that dotted keys opened may get more of them, and nothing is set
twice. -/
def setDotted (value : Toml) : List String → Entries → Option Entries
  | [], _ => none
  | [key], entries =>
    match entries.lookup key with
    | none => some (setNode key (.leaf value) entries)
    | some _ => none
  | key :: path, entries =>
    match entries.lookup key with
    | none => do some (setNode key (.table .dotted (← setDotted value path [])) entries)
    | some (.table .dotted inner) => do
      some (setNode key (.table .dotted (← setDotted value path inner)) entries)
    | some _ => none

mutual

/-- The value of a node. -/
def Node.toToml : Node → Toml
  | .leaf v => v
  | .table _ entries => .table (entriesToToml entries)
  | .tables items => .arr (itemsToToml items)

/-- The values of entries. -/
def entriesToToml : List (String × Node) → List (String × Toml)
  | [] => []
  | (k, n) :: rest => (k, n.toToml) :: entriesToToml rest

/-- The values of the tables of an array. -/
def itemsToToml : List (List (String × Node)) → List Toml
  | [] => []
  | entries :: rest => .table (entriesToToml entries) :: itemsToToml rest

end

end ProviderHub.Toml
