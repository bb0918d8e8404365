import ProviderHub.Toml.Statement

/-!
TOML documents.

The statements of a text are entered into a tree one by one. A table can be opened once by a
header, and a key set once; a table that was opened only on the way to another may still get its
header, and one that dotted keys opened may get more dotted keys.

* `Toml.Draft`: the document so far;
* `Toml.parse?`: the table that a text writes.
-/

namespace ProviderHub.Toml

/-- Changes the table at the end of a path of headers, opening the tables on the way. -/
def within (change : Entries → Option Entries) : List String → Entries → Option Entries
  | [], entries => change entries
  | key :: path, entries =>
    match entries.lookup key with
    | none => do some (setNode key (.table .passing (← within change path [])) entries)
    | some (.table origin inner) => do
      some (setNode key (.table origin (← within change path inner)) entries)
    | some (.tables items) =>
      match items.getLast? with
      | some last => do
        some (setNode key (.tables (items.dropLast ++ [← within change path last])) entries)
      | none => none
    | some (.leaf _) => none

/-- Opens a table by its header. -/
def openTable (key : String) (entries : Entries) : Option Entries :=
  match entries.lookup key with
  | none => some (setNode key (.table .header []) entries)
  | some (.table .passing inner) => some (setNode key (.table .header inner) entries)
  | some _ => none

/-- Opens one more table of an array. -/
def openArrayTable (key : String) (entries : Entries) : Option Entries :=
  match entries.lookup key with
  | none => some (setNode key (.tables [[]]) entries)
  | some (.tables items) => some (setNode key (.tables (items ++ [[]])) entries)
  | some _ => none

/-- The document so far, and the path of the header that pairs belong to. -/
structure Draft where
  root : Entries := []
  header : List String := []

/-- Enters a statement into the document. -/
def Draft.enter (d : Draft) : Statement → Option Draft
  | .header path =>
    match path.getLast? with
    | some key => do some ⟨← within (openTable key) path.dropLast d.root, path⟩
    | none => none
  | .arrayHeader path =>
    match path.getLast? with
    | some key => do some ⟨← within (openArrayTable key) path.dropLast d.root, path⟩
    | none => none
  | .pair path value => do some { d with root := ← within (setDotted value path) d.header d.root }

/-- Enters statements in order. -/
def Draft.enterAll : Draft → List Statement → Option Draft
  | d, [] => some d
  | d, s :: rest => do (← d.enter s).enterAll rest

/-- The table that a text writes. -/
def parse? (text : String) : Option Toml := do
  let cs := match text.toList with
    | '\uFEFF' :: rest => rest
    | cs => cs
  let ss ← statements (cs.length + 1) cs
  let draft ← ({} : Draft).enterAll ss
  some (.table (entriesToToml draft.root))

end ProviderHub.Toml
