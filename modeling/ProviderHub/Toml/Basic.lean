import ProviderHub.Json.Basic

/-!
TOML values.

* `Toml.get?`: what a table has at the end of a path of keys;
* `Toml.overlay`: one table laid over another, key by key, down into tables that both have;
* `Toml.toJson`: the value as JSON, from which records are read.
-/

namespace ProviderHub

/-- A TOML value. Numbers with a fraction and dates are kept as their text. -/
inductive Toml where
  | str (value : String)
  | int (value : Int)
  | float (text : String)
  | bool (value : Bool)
  | date (text : String)
  | arr (items : List Toml)
  | table (entries : List (String × Toml))
deriving Repr, Inhabited

namespace Toml

/-- What a table has at the end of a path of keys. -/
def get? : List String → Toml → Option Toml
  | [], v => some v
  | key :: path, .table entries => (entries.lookup key).bind (get? path)
  | _ :: _, _ => none

/-- Entries with a key set to a value. -/
def setEntry (key : String) (value : Toml) : List (String × Toml) → List (String × Toml)
  | [] => [(key, value)]
  | (k, v) :: rest => if k = key then (key, value) :: rest else (k, v) :: setEntry key value rest

mutual

/-- A value laid over what a table has under its key: a table goes into a table, anything else
takes the place. -/
def overlayValue : Option Toml → Toml → Toml
  | some (.table base), .table entries => .table (overlayEntries base entries)
  | _, v => v

/-- Entries laid over the entries of another table. -/
def overlayEntries : List (String × Toml) → List (String × Toml) → List (String × Toml)
  | base, [] => base
  | base, (key, v) :: rest =>
    overlayEntries (setEntry key (overlayValue (base.lookup key) v) base) rest

end

/-- One table laid over another. -/
def overlay (base upper : Toml) : Toml := overlayValue (some base) upper

mutual

/-- The value as JSON. Numbers with a fraction and dates are written as their text, since no
setting takes either. -/
def toJson : Toml → Json
  | .str s => .str s
  | .int n => .int n
  | .float text => .str text
  | .bool b => .bool b
  | .date text => .str text
  | .arr items => .arr (itemsToJson items)
  | .table entries => Json.object (entriesToJson entries)

/-- The items of an array as JSON. -/
def itemsToJson : List Toml → List Json
  | [] => []
  | v :: rest => toJson v :: itemsToJson rest

/-- The entries of a table as JSON. -/
def entriesToJson : List (String × Toml) → List (String × Json)
  | [] => []
  | (k, v) :: rest => (k, toJson v) :: entriesToJson rest

end

end Toml

end ProviderHub
